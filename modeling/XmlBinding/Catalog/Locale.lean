import XmlBinding.Text.Blank
import XmlBinding.Text.Casing

/-!
# Locales

* `Locale.normalize s` : `fr-ca` and `fr_CA` are both `fr_CA`;
* `Locale.language s` : the part before the first underscore.
-/

namespace XmlBinding.Locale

/-- The locale that every lookup falls back to. -/
def base : String := "en"

/-- The text before the first underscore, and the text after it if there is one. -/
def cut (cs : List Char) : List Char × Option (List Char) :=
  match cs.dropWhile (· ≠ '_') with
  | [] => (cs, none)
  | _ :: region => (cs.takeWhile (· ≠ '_'), some region)

/-- A locale in its normal form: language in lower case, region in upper case. -/
def normalize (s : String) : String :=
  let cs := (Text.trim s).toList.map fun c => if c = '-' then '_' else c
  let (language, region) := cut cs
  let language := Text.lower (String.ofList language)
  match region with
  | some (c :: rest) => language ++ "_" ++ Text.upper (String.ofList (c :: rest))
  | _ => if language.isEmpty then base else language

/-- Language of a normal form. -/
def language (s : String) : String := String.ofList (cut s.toList).1

end XmlBinding.Locale
