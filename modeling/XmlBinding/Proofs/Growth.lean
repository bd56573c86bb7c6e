import XmlBinding.Handler
import XmlBinding.Proofs.Client.Growth
import XmlBinding.Proofs.Linking
import XmlBinding.Proofs.Server.Growth

/-!
# Builders take nothing back

The writers, the methods and the helpers of both kinds of builders only put text behind what has
been written, in any scope and however they end. So a text can be taken aside at any time: it is the
text that would have been written.

* `Dialect.Captures d` : expressions of a dialect are what its writers write;
* `serverDialect_extends`, `clientDialect_extends` : the two dialects;
* `builders_extend` : all of it, and any action that is taken aside.
-/

namespace XmlBinding

variable {J α : Type}

/-- An expression is the text that the writers of the dialect write for the value, in the style of
the expression. Output and style are as they were, whether or not a writer fails. -/
def Dialect.Captures (d : Dialect J) : Prop :=
  ∀ r ∈ [d.readers, d.elements], ∀ (scope : Scope) (style : AccessStyle) (var : String)
    (t : JavaType) (s : Emission J),
    ∃ (ended : Except Failure Unit) (u : Emission J) (text : String), s.Grows u ∧
      Emit.writeProperty r var (scope.session.synthetic t) .serverRead scope { s with style } =
        (ended, { u with style, output := s.output ++ text }) ∧
      Emit.expression r style var t scope s =
        (ended.map fun _ => text, { u with output := s.output })

theorem Dialect.Extends.captures {d : Dialect J} (h : d.Extends) : d.Captures := by
  intro r hr scope style var t s
  refine Emit.expression_captures (fun w hw => ?_) style var t s
  obtain rfl | rfl : r = d.readers ∨ r = d.elements := by simpa using hr
  · exact h.readers w hw scope
  · exact h.elements w hw scope

theorem serverDialect_extends : Handler.serverDialect.Extends :=
  Server.extends_dialect fun x => nomatch x

theorem clientDialect_extends : Handler.clientDialect.Extends :=
  Client.extends_dialect fun x => nomatch x

/-- The writers, the methods and the helpers of both kinds of builders, and so whole bodies, take
nothing back: in any scope, from any emission and however they end, the style is kept, one text that
does not depend on the output goes behind it, and classes to import and helpers asked for are only
added. Whatever action is captured, its output is taken aside and the output around it is as it was.
An action that takes nothing back can be captured again and again: the text is the one that it would
have written, and the style is kept too. So it is with the expressions of both. -/
theorem builders_extend :
    (Handler.serverDialect.Extends ∧ Handler.clientDialect.Extends) ∧
      (∀ scope, Emit.Extends scope Handler.serverDialect.body ∧
        Emit.Extends scope Handler.clientDialect.body) ∧
      (∀ (J α : Type) (scope : Scope) (act : Emit J α) (s : Emission J),
        (Emit.capture act scope s).1 = (act scope { s with output := "" }).1.map
            (·, (act scope { s with output := "" }).2.output) ∧
          (Emit.capture act scope s).2.output = s.output ∧
          ∀ style, (Emit.withStyle style act scope s).2.style = s.style) ∧
      (∀ (J α : Type) (scope : Scope) (act : Emit J α), Emit.Extends scope act →
        Emit.Extends scope (Emit.capture act) ∧
          (∀ style, Emit.Extends scope (Emit.withStyle style act)) ∧
          ∀ s : Emission J, ∃ (ended : Except Failure α) (t : Emission J) (text : String),
            s.Grows t ∧ act scope s = (ended, { t with output := s.output ++ text }) ∧
              Emit.capture act scope s =
                (ended.map (·, text), { t with output := s.output })) ∧
      Handler.serverDialect.Captures ∧ Handler.clientDialect.Captures := by
  have hserver := serverDialect_extends
  have hclient := clientDialect_extends
  refine ⟨⟨hserver, hclient⟩, fun scope => ⟨hserver.body scope, hclient.body scope⟩, ?_, ?_,
    hserver.captures, hclient.captures⟩
  · exact fun J α scope act s => ⟨rfl, rfl, fun style => rfl⟩
  · exact fun J α scope act h => ⟨h.capture, h.withStyle, h.captures⟩

open Generator (ofPersons partner)

/-- Numbers by person, which no builder reads. -/
def byPerson : Property :=
  { partner with
    name := "byPerson"
    category := .map partner.type (.primitive .int) (.reference "java.util.HashMap") }

/-- Reads a partner, then fails. -/
def halfRead : Emit (Server.Job Empty) Unit :=
  Emit.writeProperties Server.readers "o" [partner, byPerson] .serverRead

def personScope : Scope :=
  Server.scopeOf ofPersons.session (.opening Generator.person "shop" "PersonBuilder" "person")

/-- A server builder in the midst of a class. -/
def midway : Emission (Server.Job Empty) := { Emission.start .dom4j with output := "before" }

/-- What is read before the failure stays, unless it is captured. -/
theorem halfRead_captured :
    Emit.Extends personScope halfRead ∧
      ∃ (t : Emission (Server.Job Empty)) (text : String), midway.Grows t ∧
        halfRead personScope midway =
          (.error (.complexAttribute "shop.Person" "byPerson"),
            { t with output := "before" ++ text }) ∧
        Emit.capture halfRead personScope midway =
          (.error (.complexAttribute "shop.Person" "byPerson"), { t with output := "before" }) := by
  obtain ⟨⟨hserver, -⟩, -, -, hcapture, -⟩ := builders_extend
  have hextends : Emit.Extends personScope halfRead :=
    Emit.extends_writeProperties (fun w hw => hserver.readers w hw personScope) "o" _ .serverRead
  obtain ⟨-, -, hruns⟩ := hcapture _ _ _ _ hextends
  obtain ⟨ended, t, text, hgrows, hrun, hcaptured⟩ := hruns midway
  -- The reader of maps refuses the key once the partner has been read.
  have hended : ended = .error (.complexAttribute "shop.Person" "byPerson") :=
    (congrArg Prod.fst hrun).symm.trans rfl
  subst hended
  exact ⟨hextends, t, text, hgrows, hrun, hcaptured⟩

end XmlBinding
