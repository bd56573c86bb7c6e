import XmlBinding.Writer

/-!
# What an action adds to an emission

No action of a writer looks at what has been written, and none takes anything back. What it does is
told by an addition, apart from the emission it starts from.

* `Addition J` : text, classes to import and helpers asked for, with `++` for one after the other;
* `Emission.add s x` : the emission with an addition; `add_append`, `add_output`, `add_style`;
-/

namespace XmlBinding

/-- What an action adds to an emission. -/
structure Addition (J : Type) where
  text : String
  /-- Classes to import, in the order in which they are met. -/
  uses : List String
  /-- Helpers asked for, in order, with those asked for before. -/
  asks : List (Helper J)

namespace Addition

variable {J : Type}

def empty : Addition J := ⟨"", [], []⟩

instance : Append (Addition J) :=
  ⟨fun x y => ⟨x.text ++ y.text, x.uses ++ y.uses, x.asks ++ y.asks⟩⟩

def ofText (t : String) : Addition J := ⟨t, [], []⟩

def ofUses (qualified : List String) : Addition J := ⟨"", qualified, []⟩

def ofAsk (id : HelperId) (job : J) : Addition J := ⟨"", [], [⟨id, job⟩]⟩

def concat (xs : List (Addition J)) : Addition J := xs.foldr (· ++ ·) empty

@[ext] theorem ext {x y : Addition J} (ht : x.text = y.text) (hu : x.uses = y.uses)
    (ha : x.asks = y.asks) : x = y := by
  cases x; cases y; cases ht; cases hu; cases ha; rfl

@[simp] theorem text_append (x y : Addition J) : (x ++ y).text = x.text ++ y.text := rfl

@[simp] theorem uses_append (x y : Addition J) : (x ++ y).uses = x.uses ++ y.uses := rfl

@[simp] theorem asks_append (x y : Addition J) : (x ++ y).asks = x.asks ++ y.asks := rfl

@[simp] theorem text_empty : (empty : Addition J).text = "" := rfl

@[simp] theorem uses_empty : (empty : Addition J).uses = [] := rfl

@[simp] theorem asks_empty : (empty : Addition J).asks = [] := rfl

@[simp] theorem text_ofText (t : String) : (ofText t : Addition J).text = t := rfl

@[simp] theorem uses_ofText (t : String) : (ofText t : Addition J).uses = [] := rfl

@[simp] theorem asks_ofText (t : String) : (ofText t : Addition J).asks = [] := rfl

@[simp] theorem text_ofUses (us : List String) : (ofUses us : Addition J).text = "" := rfl

@[simp] theorem uses_ofUses (us : List String) : (ofUses us : Addition J).uses = us := rfl

@[simp] theorem asks_ofUses (us : List String) : (ofUses us : Addition J).asks = [] := rfl

@[simp] theorem text_ofAsk (id : HelperId) (job : J) : (ofAsk id job).text = "" := rfl

@[simp] theorem uses_ofAsk (id : HelperId) (job : J) : (ofAsk id job).uses = [] := rfl

@[simp] theorem asks_ofAsk (id : HelperId) (job : J) : (ofAsk id job).asks = [⟨id, job⟩] := rfl

@[simp] theorem ofText_append (t u : String) :
    (ofText t ++ ofText u : Addition J) = ofText (t ++ u) := rfl

@[simp] theorem ofUses_append (us vs : List String) :
    (ofUses us ++ ofUses vs : Addition J) = ofUses (us ++ vs) := by
  ext1
  · rw [text_append, text_ofUses, text_ofUses, String.append_empty, text_ofUses]
  · rfl
  · rfl

@[simp] theorem append_empty (x : Addition J) : x ++ empty = x := by ext1 <;> simp

@[simp] theorem empty_append (x : Addition J) : empty ++ x = x := by ext1 <;> simp

theorem append_assoc (x y z : Addition J) : x ++ y ++ z = x ++ (y ++ z) := by
  ext1 <;> simp [String.append_assoc]

@[simp] theorem concat_nil : concat ([] : List (Addition J)) = empty := rfl

@[simp] theorem concat_cons (x : Addition J) (xs : List (Addition J)) :
    concat (x :: xs) = x ++ concat xs := rfl

theorem text_concat (xs : List (Addition J)) :
    (concat xs).text = String.join (xs.map (·.text)) := by
  induction xs with
  | nil => rfl
  | cons x xs ih => rw [concat_cons, text_append, ih, List.map_cons, String.join_cons]

theorem asks_concat (xs : List (Addition J)) : (concat xs).asks = xs.flatMap (·.asks) := by
  induction xs with
  | nil => rfl
  | cons x xs ih => rw [concat_cons, asks_append, ih, List.flatMap_cons]

theorem uses_concat (xs : List (Addition J)) : (concat xs).uses = xs.flatMap (·.uses) := by
  induction xs with
  | nil => rfl
  | cons x xs ih => rw [concat_cons, uses_append, ih, List.flatMap_cons]

end Addition

/-! ## Additions to an emission -/

namespace Emission

variable {J : Type}

/-- The emission with a helper asked for, unless one of its identity has been. -/
def ask (s : Emission J) (h : Helper J) : Emission J :=
  if h.id ∈ s.requested then s
  else { s with requested := s.requested ++ [h.id], pending := s.pending ++ [h] }

def add (s : Emission J) (x : Addition J) : Emission J :=
  x.asks.foldl ask
    { s with
      output := s.output ++ x.text
      imports := x.uses.foldl (fun sorted q => insertSorted q sorted) s.imports }

theorem ask_with (s : Emission J) (style : AccessStyle) (output : String) (imports : List String)
    (h : Helper J) :
    ask { s with style, output, imports } h = { ask s h with style, output, imports } := by
  unfold ask
  split <;> rfl

theorem foldl_ask_with (s : Emission J) (style : AccessStyle) (output : String)
    (imports : List String) (hs : List (Helper J)) :
    hs.foldl ask { s with style, output, imports } =
      { hs.foldl ask s with style, output, imports } := by
  induction hs generalizing s with
  | nil => rfl
  | cons h hs ih => rw [List.foldl_cons, ask_with, ih, List.foldl_cons]

theorem add_eq (s : Emission J) (x : Addition J) :
    s.add x =
      { x.asks.foldl ask s with
        style := s.style
        output := s.output ++ x.text
        imports := x.uses.foldl (fun sorted q => insertSorted q sorted) s.imports } :=
  foldl_ask_with s s.style _ _ _

@[simp] theorem add_style (s : Emission J) (x : Addition J) : (s.add x).style = s.style := by
  rw [add_eq]

@[simp] theorem add_output (s : Emission J) (x : Addition J) :
    (s.add x).output = s.output ++ x.text := by
  rw [add_eq]

@[simp] theorem add_imports (s : Emission J) (x : Addition J) :
    (s.add x).imports = x.uses.foldl (fun sorted q => insertSorted q sorted) s.imports := by
  rw [add_eq]

theorem add_pending (s : Emission J) (x : Addition J) :
    (s.add x).pending = (x.asks.foldl ask s).pending := by
  rw [add_eq]

theorem add_requested (s : Emission J) (x : Addition J) :
    (s.add x).requested = (x.asks.foldl ask s).requested := by
  rw [add_eq]

@[simp] theorem add_empty (s : Emission J) : s.add .empty = s := by
  rw [add_eq]
  simp [Addition.empty]

theorem add_append (s : Emission J) (x y : Addition J) : s.add (x ++ y) = (s.add x).add y := by
  rw [add_eq s, add_eq (s.add x), add_eq s x, foldl_ask_with (x.asks.foldl ask s)]
  simp [String.append_assoc]

/-- An addition does not depend on style and output of the emission. -/
theorem with_add (s : Emission J) (style : AccessStyle) (output : String) (x : Addition J) :
    { s with style, output }.add x = { s.add x with style, output := output ++ x.text } := by
  rw [add_eq, add_eq s, foldl_ask_with s style output s.imports]

end Emission

end XmlBinding
