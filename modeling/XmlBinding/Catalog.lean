import XmlBinding.Catalog.English
import XmlBinding.Catalog.French
import XmlBinding.Catalog.Locale
import XmlBinding.Failure
import XmlBinding.SortedMap
import XmlBinding.Template

/-!
# Message catalogs

Names of generated methods and documentation of generated classes and methods, by keys. A catalog is
built from layers: the English bundle, that of the language, that of the exact locale, that of the
user. A later layer replaces single fields of an entry.

* `Catalog.load locale user` : the catalog of a locale;
* `Catalog.methodName`, `methodDoc?`, `classDoc?` : the templates of a key, filled.
-/

namespace XmlBinding

/-- Templates by key, for one locale. -/
structure Catalog where
  locale : String
  classes : SortedMap String String
  methods : SortedMap String Catalog.MethodText
  deriving Repr

namespace Catalog

def builtin? (locale : String) : Option Bundle :=
  if locale = "en" then some english
  else if locale = "fr" then some french
  else none

/-- Templates with those of a later layer on top. -/
def MethodText.over (later : MethodText) (earlier : Option MethodText) : MethodText :=
  ⟨later.name <|> earlier.bind (·.name), later.doc <|> earlier.bind (·.doc)⟩

/-- The catalog with one more layer. -/
def overlay (c : Catalog) (b : Bundle) : Catalog where
  locale := c.locale
  classes := b.classes.foldl (fun m (key, template) => m.insert key template) c.classes
  methods := b.methods.foldl (fun m (key, text) => m.alter key text.over) c.methods

/-- The layers of a normal locale, in order. -/
def layers (locale : String) (user : Option Bundle) : List Bundle :=
  let language := Locale.language locale
  let ofLanguage := if language = Locale.base then none else builtin? language
  let exact := if locale = language then none else builtin? locale
  [some english, ofLanguage, exact, user].filterMap id

def load (locale : String) (user : Option Bundle) : Catalog :=
  let locale := Locale.normalize locale
  (layers locale user).foldl overlay ⟨locale, .empty, .empty⟩

def methodName (c : Catalog) (key : String) (args : List String) : Except Failure String :=
  match (c.methods.find? key).bind (·.name) with
  | some template => .ok (Template.fill args template)
  | none => .error (.missingMethodName key)

def methodDoc? (c : Catalog) (key : String) (args : List String) : Option String :=
  ((c.methods.find? key).bind (·.doc)).map (Template.fill args)

def classDoc? (c : Catalog) (key : String) (args : List String) : Option String :=
  (c.classes.find? key).map (Template.fill args)

end Catalog

end XmlBinding
