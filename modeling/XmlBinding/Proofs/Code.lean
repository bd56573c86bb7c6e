import XmlBinding.Proofs.Form

/-!
# Code with its methods marked

The body of a builder is a row of pieces. Names of the catalog stand only where a method is defined
or called, so which methods there are and what calls them can be read off.

* `MethodRef` : what a method is named by;
* `Piece`, `Code` : text, documentation, definitions and calls; `Code.textIn` : the text they make;
* `Code.definitions`, `calls`, `callsOfBuilders` : the methods that are defined and called;
* `Config.lineCode`, `blockCode`, `Scope.accessCode`, … : the code of lines, blocks and accesses;
* `Code.Uses s own standing` : statements, with what they call;
* `Code.HasMethods s own standing ms` : methods one after the other, with what they call;
* `Code.Stands` : a class has a code as its body.
-/

namespace XmlBinding

/-- What a method is named by: its key in the catalog, and the arguments of the template. -/
structure MethodRef where
  key : String
  args : List String
  deriving DecidableEq, Repr

/-- A parameter of a method, with its default as it is written. -/
structure Parameter where
  type : String
  name : String
  default : String
  deriving DecidableEq, Repr

/-- Pieces of the code of a builder. -/
inductive Piece where
  /-- A text without names of the catalog. -/
  | text (t : String)
  /-- The documentation before a method. -/
  | doc (key : String) (args : List String)
  /-- Name and parameters of a method that is defined. -/
  | define (m : MethodRef) (parameters : List Parameter)
  /-- The name of a method of the same class, up to the bracket of a call. -/
  | call (m : MethodRef)
  /-- The name of a method of the builder of a type, with `gap` before it. -/
  | callOf (t : JavaType) (gap : String) (m : MethodRef)
  deriving DecidableEq, Repr

abbrev Code := List Piece

namespace Parameter

def text (java : Bool) (p : Parameter) : String :=
  if java then p.type ++ " " ++ p.name else p.name ++ ":" ++ p.type ++ p.default

/-- Parameters with commas between them. -/
def listText (java : Bool) : List Parameter → String
  | [] => ""
  | [p] => p.text java
  | p :: rest => p.text java ++ ", " ++ listText java rest

end Parameter

def Scope.methodName (scope : Scope) (m : MethodRef) : String := scope.nameOf m.key m.args

def Piece.textIn (scope : Scope) (style : AccessStyle) : Piece → String
  | text t => t
  | doc key args => scope.session.methodLead key args style.methodLevel
  | define m parameters =>
    scope.methodName m ++ "(" ++ Parameter.listText style.isJava parameters ++ ")"
  | call m => scope.methodName m ++ "("
  | callOf t gap m => scope.builderName t ++ gap ++ scope.methodName m ++ "("

/-- Two literals in front of a text are one. -/
theorem append_literal {a b ab : String} (h : a ++ b = ab) (c : String) :
    a ++ (b ++ c) = ab ++ c := by
  rw [← String.append_assoc, h]

namespace Piece

variable (scope : Scope) (style : AccessStyle)

@[simp] theorem textIn_text (t : String) : (text t).textIn scope style = t := rfl

@[simp] theorem textIn_doc (key : String) (args : List String) :
    (doc key args).textIn scope style =
      scope.session.methodLead key args style.methodLevel := rfl

@[simp] theorem textIn_define (m : MethodRef) (parameters : List Parameter) :
    (define m parameters).textIn scope style =
      scope.methodName m ++ "(" ++ Parameter.listText style.isJava parameters ++ ")" := rfl

@[simp] theorem textIn_call (m : MethodRef) :
    (call m).textIn scope style = scope.methodName m ++ "(" := rfl

@[simp] theorem textIn_callOf (t : JavaType) (gap : String) (m : MethodRef) :
    (callOf t gap m).textIn scope style =
      scope.builderName t ++ gap ++ scope.methodName m ++ "(" := rfl

end Piece

namespace Code

variable {scope : Scope} {style : AccessStyle} {code : Code}

/-! ## Text -/

def textIn (scope : Scope) (style : AccessStyle) (code : Code) : String :=
  String.join (code.map (Piece.textIn scope style))

@[simp] theorem textIn_nil : textIn scope style [] = "" := rfl

@[simp] theorem textIn_cons (p : Piece) (code : Code) :
    textIn scope style (p :: code) = p.textIn scope style ++ textIn scope style code := by
  unfold textIn
  rw [List.map_cons, String.join_cons]

@[simp] theorem textIn_append (code code' : Code) :
    textIn scope style (code ++ code') = textIn scope style code ++ textIn scope style code' := by
  unfold textIn
  rw [List.map_append, String.join_append]

theorem textIn_flatMap {α : Type} (f : α → Code) (l : List α) :
    textIn scope style (l.flatMap f) = String.join (l.map fun a => textIn scope style (f a)) := by
  induction l with
  | nil => rfl
  | cons a l ih => rw [List.flatMap_cons, textIn_append, ih, List.map_cons, String.join_cons]

end Code

/-! ## Methods -/

namespace Piece

/-- The method that a piece defines, with its parameters. -/
def definition? : Piece → Option (MethodRef × List Parameter)
  | define m parameters => some (m, parameters)
  | text _ | doc .. | call _ | callOf .. => none

/-- The method of the same class that a piece calls. -/
def call? : Piece → Option MethodRef
  | call m => some m
  | text _ | doc .. | define .. | callOf .. => none

def callOfBuilder? : Piece → Option (JavaType × MethodRef)
  | callOf t _ m => some (t, m)
  | text _ | doc .. | define .. | call _ => none

end Piece

namespace Code

/-- Methods that are defined, with their parameters. -/
def definitions (code : Code) : List (MethodRef × List Parameter) :=
  code.filterMap Piece.definition?

/-- Methods of the same class that are called. -/
def calls (code : Code) : List MethodRef := code.filterMap Piece.call?

def callsOfBuilders (code : Code) : List (JavaType × MethodRef) :=
  code.filterMap Piece.callOfBuilder?

theorem definitions_append (code code' : Code) :
    (code ++ code').definitions = code.definitions ++ code'.definitions :=
  List.filterMap_append

theorem calls_append (code code' : Code) : (code ++ code').calls = code.calls ++ code'.calls :=
  List.filterMap_append

theorem callsOfBuilders_append (code code' : Code) :
    (code ++ code').callsOfBuilders = code.callsOfBuilders ++ code'.callsOfBuilders :=
  List.filterMap_append

end Code

/-! ## Lines, blocks and accesses -/

namespace Config

def lineCode (c : Config) (level : Nat) (code : Code) : Code :=
  .text (c.indent level) :: (code ++ [.text "\n"])

def linesCode (c : Config) (level : Nat) (lines : List Code) : Code :=
  lines.flatMap (c.lineCode level)

/-- The header of a block with its opening brace. -/
def blockCode (c : Config) (level : Nat) (header : Code) : Code :=
  .text (c.indent level) :: (header ++ [.text (c.openBrace level)])

/-- A method behind its documentation: `before` and `after` stand around its name and parameters,
`body` behind the opening brace. -/
def methodCode (c : Config) (level : Nat) (docs : List String) (before : String) (m : MethodRef)
    (parameters : List Parameter) (after : String) (body : Code) : Code :=
  .doc m.key docs ::
    (c.blockCode level [.text before, .define m parameters, .text after] ++ body)

variable {scope : Scope} {style : AccessStyle} (c : Config) (level : Nat)

@[simp] theorem textIn_lineCode (code : Code) :
    (c.lineCode level code).textIn scope style = c.lineText level (code.textIn scope style) := by
  simp [lineCode, lineText, String.append_assoc]

@[simp] theorem textIn_linesCode (lines : List Code) :
    (c.linesCode level lines).textIn scope style =
      c.linesText level (lines.map (Code.textIn scope style)) := by
  unfold linesCode linesText
  rw [Code.textIn_flatMap, List.map_map]
  exact congrArg String.join (List.map_congr_left fun code _ => c.textIn_lineCode level code)

@[simp] theorem textIn_blockCode (header : Code) :
    (c.blockCode level header).textIn scope style =
      c.blockText level (header.textIn scope style) := by
  simp [blockCode, blockText, String.append_assoc]

@[simp] theorem textIn_methodCode (docs : List String) (before : String) (m : MethodRef)
    (parameters : List Parameter) (after : String) (body : Code) :
    (c.methodCode level docs before m parameters after body).textIn scope style =
      scope.session.methodLead m.key docs style.methodLevel ++
        (c.blockText level (before ++ (scope.methodName m ++ ("(" ++
          (Parameter.listText style.isJava parameters ++ (")" ++ after))))) ++
          body.textIn scope style) := by
  simp [methodCode, String.append_assoc]

end Config

namespace AccessStyle

/-- The access to a value, with code in front of it. -/
def accessCode (s : AccessStyle) (c : Config) (var : String) (p : Property) (lead : Code)
    (tail : String) (placement : Option Placement) : Code :=
  match s with
  | dom4j =>
    match p.setter with
    | some setter =>
      .text (c.indent s.bodyLevel ++ var ++ "." ++ setter ++ "(") :: (lead ++
        [.text ("el." ++ dom4jAccessor p.node placement ++ "(\"" ++ p.node.name ++ "\")" ++ tail ++
          ");\n")])
    | none => []
  | dom4jText => lead ++ [.text (var ++ ".getTextTrim()" ++ tail)]
  | dom4jKey =>
    lead ++ [.text (var ++ ".attributeValue(\"" ++ mapKeyAttribute ++ "\")" ++ tail)]
  | as3 =>
    if p.isReadOnly then []
    else
      .text (c.indent s.bodyLevel ++ var ++ "." ++ p.name ++ " = ") :: (lead ++
        [.text ("nod." ++ p.node.e4xPath ++ tail ++ ";\n")])
  | as3Text => lead ++ [.text (var ++ tail)]

theorem textIn_accessCode (scope : Scope) (style s : AccessStyle) (var : String) (p : Property)
    (lead : Code) (tail : String) (placement : Option Placement) :
    (s.accessCode scope.session.config var p lead tail placement).textIn scope style =
      scope.accessText s var p (lead.textIn scope style) tail placement := by
  unfold accessCode Scope.accessText access?
  cases s with
  | dom4j => cases p.setter <;> simp [String.append_assoc]
  | as3 => cases p.isReadOnly <;> simp [String.append_assoc]
  | dom4jText | dom4jKey | as3Text => simp [String.append_assoc]

end AccessStyle

/-- The call of the method for values of a type: of the type's builder for an entity, with `gap`
before its name, and of a helper of the class itself for other types. -/
def Scope.callCode (scope : Scope) (t : JavaType) (gap standing : String) (helper : MethodRef) :
    Piece :=
  if scope.session.isEntity t then .callOf t gap ⟨standing, []⟩ else .call helper

theorem Scope.textIn_callCode (scope : Scope) (style : AccessStyle) (t : JavaType)
    (gap standing key : String) (args : List String) :
    (scope.callCode t gap standing ⟨key, args⟩).textIn scope style =
      scope.callOf t gap standing key args ++ "(" := by
  unfold callCode callOf
  cases scope.session.isEntity t <;> simp [Scope.methodName, String.append_assoc]

/-- The code of those of some properties that take part in a direction. -/
def Code.ofProperties (d : Direction) (code : Property → Code) (ps : List Property) : Code :=
  (ps.filter (·.takesPart d)).flatMap code

theorem Code.textIn_ofProperties {J : Type} {scope : Scope} {style : AccessStyle}
    {x : Property → Addition J} {code : Property → Code}
    (h : ∀ p, (code p).textIn scope style = (x p).text) (d : Direction) (ps : List Property) :
    (ofProperties d code ps).textIn scope style = (Addition.ofProperties d x ps).text := by
  unfold ofProperties Addition.ofProperties
  rw [textIn_flatMap, Addition.text_concat, List.map_map]
  exact congrArg String.join (List.map_congr_left fun p _ => h p)

/-! ## Statements -/

/-- Pieces of statements: texts, calls of some methods of the same class, and calls of some methods
of the builders of entities. -/
inductive Piece.Uses (s : Session) (own standing : List MethodRef) : Piece → Prop
  | text (t : String) : Uses s own standing (text t)
  | call {m : MethodRef} (h : m ∈ own) : Uses s own standing (call m)
  | callOf {t : JavaType} {gap : String} {m : MethodRef} (ht : s.isEntity t = true)
      (hm : m ∈ standing) : Uses s own standing (callOf t gap m)

theorem Piece.Uses.mono {s : Session} {own own' standing : List MethodRef} {q : Piece}
    (h : q.Uses s own standing) (hown : own ⊆ own') : q.Uses s own' standing := by
  cases h with
  | text t => exact .text t
  | call h => exact .call (hown h)
  | callOf ht hm => exact .callOf ht hm

/-- The call of the method for values of a type is one of a statement where the helper is called
for other types only. -/
theorem Scope.uses_callCode {scope : Scope} {own standing : List MethodRef} {t : JavaType}
    {key : String} {helper : MethodRef} (gap : String)
    (hhelper : scope.session.isEntity t = false → helper ∈ own) (hkey : ⟨key, []⟩ ∈ standing) :
    (scope.callCode t gap key helper).Uses scope.session own standing := by
  unfold callCode
  cases ht : scope.session.isEntity t with
  | true => exact .callOf ht hkey
  | false => exact .call (hhelper ht)

namespace Code

variable {s : Session} {own own' standing : List MethodRef} {code code' : Code}

/-- A code of statements. -/
def Uses (s : Session) (own standing : List MethodRef) (code : Code) : Prop :=
  ∀ q ∈ code, q.Uses s own standing

theorem Uses.mono (h : code.Uses s own standing) (hown : own ⊆ own') :
    code.Uses s own' standing :=
  fun q hq => (h q hq).mono hown

@[simp] theorem uses_nil : Uses s own standing [] := fun _ hq => nomatch hq

@[simp] theorem uses_cons {q : Piece} :
    Uses s own standing (q :: code) ↔ q.Uses s own standing ∧ code.Uses s own standing :=
  List.forall_mem_cons

@[simp] theorem uses_append :
    Uses s own standing (code ++ code') ↔ code.Uses s own standing ∧ code'.Uses s own standing :=
  List.forall_mem_append

theorem uses_flatMap {α : Type} {f : α → Code} {l : List α}
    (h : ∀ a ∈ l, (f a).Uses s own standing) : Uses s own standing (l.flatMap f) := by
  intro q hq
  obtain ⟨a, ha, hq⟩ := List.mem_flatMap.1 hq
  exact h a ha q hq

@[simp] theorem uses_text (t : String) : (Piece.text t).Uses s own standing := .text t

@[simp] theorem uses_lineCode (c : Config) (level : Nat) :
    Uses s own standing (c.lineCode level code) ↔ code.Uses s own standing := by
  simp [Config.lineCode]

theorem uses_linesCode (c : Config) (level : Nat) {lines : List Code}
    (h : ∀ l ∈ lines, l.Uses s own standing) : Uses s own standing (c.linesCode level lines) :=
  uses_flatMap fun l hl => (uses_lineCode c level).2 (h l hl)

theorem uses_accessCode (style : AccessStyle) (c : Config) (var : String) (p : Property)
    (tail : String) (placement : Option Placement) (h : code.Uses s own standing) :
    Uses s own standing (style.accessCode c var p code tail placement) := by
  unfold AccessStyle.accessCode
  cases style with
  | dom4j => cases p.setter <;> simp [h]
  | as3 => cases p.isReadOnly <;> simp [h]
  | dom4jText | dom4jKey | as3Text => simp [h]

/-- What is used for properties is used for one that takes part. -/
theorem uses_ofProperties {d : Direction} {of : Property → Code} {ps : List Property}
    (h : ∀ p ∈ ps, p.takesPart d = true → (of p).Uses s own standing) :
    Uses s own standing (ofProperties d of ps) :=
  uses_flatMap fun p hp => h p (List.mem_filter.1 hp).1 (List.mem_filter.1 hp).2

/-! ### Methods of statements -/

/-- A code of methods, with what their statements use. -/
structure HasMethods (s : Session) (own standing : List MethodRef)
    (ms : List (MethodRef × List Parameter)) (code : Code) : Prop where
  definitions : code.definitions = ms
  calls : ∀ m ∈ code.calls, m ∈ own
  callsOfBuilders : ∀ x ∈ code.callsOfBuilders, s.isEntity x.1 = true ∧ x.2 ∈ standing

theorem Uses.hasMethods (h : code.Uses s own standing) : HasMethods s own standing [] code := by
  refine ⟨List.filterMap_eq_nil_iff.2 fun q hq => ?_, fun m hm => ?_, fun x hx => ?_⟩
  · cases h q hq <;> rfl
  · obtain ⟨q, hq, hm⟩ := List.mem_filterMap.1 hm
    cases h q hq with
    | call h => exact Option.some.inj hm ▸ h
    | text | callOf => cases hm
  · obtain ⟨q, hq, hx⟩ := List.mem_filterMap.1 hx
    cases h q hq with
    | callOf ht hm => exact Option.some.inj hx ▸ ⟨ht, hm⟩
    | text | call => cases hx

namespace HasMethods

variable {ms ms' : List (MethodRef × List Parameter)}

theorem append (h : HasMethods s own standing ms code) (h' : HasMethods s own standing ms' code') :
    HasMethods s own standing (ms ++ ms') (code ++ code') where
  definitions := by rw [definitions_append, h.definitions, h'.definitions]
  calls m hm := by
    rw [calls_append] at hm
    exact (List.mem_append.1 hm).elim (h.calls m) (h'.calls m)
  callsOfBuilders x hx := by
    rw [callsOfBuilders_append] at hx
    exact (List.mem_append.1 hx).elim (h.callsOfBuilders x) (h'.callsOfBuilders x)

theorem mono (h : HasMethods s own standing ms code) (hown : own ⊆ own') :
    HasMethods s own' standing ms code :=
  ⟨h.definitions, fun m hm => hown (h.calls m hm), h.callsOfBuilders⟩

theorem flatMap {α : Type} {of : α → Code} {m : α → MethodRef × List Parameter} {l : List α}
    (h : ∀ a ∈ l, HasMethods s own standing [m a] (of a)) :
    HasMethods s own standing (l.map m) (l.flatMap of) := by
  induction l with
  | nil => exact uses_nil.hasMethods
  | cons a l ih =>
    exact (h a List.mem_cons_self).append (ih fun b hb => h b (List.mem_cons_of_mem a hb))

theorem doc (key : String) (args : List String) : HasMethods s own standing [] [.doc key args] :=
  ⟨rfl, fun _ h => (nomatch h), fun _ h => (nomatch h)⟩

theorem define (m : MethodRef) (parameters : List Parameter) :
    HasMethods s own standing [(m, parameters)] [.define m parameters] :=
  ⟨rfl, fun _ h => (nomatch h), fun _ h => (nomatch h)⟩

/-- A method with a body of statements. -/
theorem method {c : Config} {level : Nat} {docs : List String} {before after : String}
    {m : MethodRef} {parameters : List Parameter} (h : code.Uses s own standing) :
    HasMethods s own standing [(m, parameters)]
      (c.methodCode level docs before m parameters after code) := by
  have hlead : Uses s own standing [.text (c.indent level), .text before] := by simp
  have hrest : Uses s own standing (.text after :: .text (c.openBrace level) :: code) := by
    simpa using h
  exact (doc m.key docs).append (hlead.hasMethods.append
    ((define m parameters).append hrest.hasMethods))

end HasMethods

end Code

/-! ## Classes -/

def Code.Stands (code : Code) (scope : Scope) (style : AccessStyle) (c : GeneratedClass) : Prop :=
  ∃ head, c.source =
    head ++ code.textIn scope style ++ style.classFooter scope.session.config

end XmlBinding
