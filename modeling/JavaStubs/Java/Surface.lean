import JavaStubs.Java.Implementation
import JavaStubs.Text.UnicodeEscape

/-!
Compilation units of types whose names are texts over any alphabet. The `Surface` of a type is what its unit
may show of it; `letter` writes the characters of the unit itself in the alphabet. Over characters the unit is
that of `Implementation`. Over code points it also is the unit of names that are no strings, since there are
surrogates in them.
-/
namespace JavaStubs

/-- A method over an alphabet: its parameters are pairs of a type and a name. -/
structure Signature (α : Type) where
  name : List α
  returnType : List α
  parameters : List (List α × List α)
  isAbstract : Bool
  deriving DecidableEq

/-- The names and methods of a type over an alphabet. -/
structure Surface (α : Type) where
  package : List α
  simpleName : List α
  canonicalName : List α
  methods : List (Signature α)
  deriving DecidableEq

/-- How a class is named and laid out, over an alphabet. -/
structure Layout (α : Type) where
  suffix : List α
  indent : List α
  deriving DecidableEq

variable {α β : Type}

/-! ## Texts and alphabets -/

def Signature.map (f : List α → List β) (method : Signature α) : Signature β where
  name := f method.name
  returnType := f method.returnType
  parameters := method.parameters.map fun (type, name) => (f type, f name)
  isAbstract := method.isAbstract

def Layout.map (f : List α → List β) (layout : Layout α) : Layout β where
  suffix := f layout.suffix
  indent := f layout.indent

/-- A style, each of its texts taken into an alphabet. -/
def Layout.ofStyle (f : String → List α) (style : Implementation.Style) : Layout α where
  suffix := f style.suffix
  indent := f style.indent

/-- A method, each of its names taken into an alphabet. -/
def Signature.ofMethod (f : String → List α) (method : Method) : Signature α where
  name := f method.name
  returnType := f method.returnType.name
  parameters := method.parameters.map fun parameter => (f parameter.type.name, f parameter.name)
  isAbstract := method.isAbstract

namespace Surface

def map (f : List α → List β) (surface : Surface α) : Surface β where
  package := f surface.package
  simpleName := f surface.simpleName
  canonicalName := f surface.canonicalName
  methods := surface.methods.map (.map f)

/-- A type, each of its names taken into an alphabet. -/
def ofInterface (f : String → List α) (type : Interface) : Surface α where
  package := f type.package
  simpleName := f type.simpleName
  canonicalName := f type.canonicalName
  methods := type.methods.map (.ofMethod f)

/-- The methods that an implementing class has to define, in order. -/
def abstractMethods (surface : Surface α) : List (Signature α) := surface.methods.filter (·.isAbstract)

/-! ## The unit -/

section
variable [DecidableEq α] (letter : Char → α)

/-- A text of the unit itself. -/
def written (text : String) : List α := text.toList.map letter

/-- The parameters of a method as source text. -/
def parameterList (method : Signature α) : List α :=
  (written letter ", ").intercalate (method.parameters.map fun (type, name) => type ++ written letter " " ++ name)

/-- The literal of a type's default value; `void` has none. -/
def defaultValue (type : List α) : List α :=
  if type ∈ TypeName.primitives.map (written letter) then
    if type = written letter "boolean" then written letter "false"
    else if type = written letter "void" then []
    else written letter "0"
  else written letter "null"

/-- What stands behind the parameters of a method. -/
def bodyText (indent returnType : List α) : List α :=
  written letter " \x7b\n" ++
  (if returnType = written letter "void" then []
    else indent ++ indent ++ written letter "return " ++ defaultValue letter returnType ++ written letter ";\n") ++
  indent ++ written letter "\x7d\n"

/-- The definition of a method. -/
def methodText (indent : List α) (method : Signature α) : List α :=
  indent ++ written letter "public " ++ method.returnType ++ written letter " " ++ method.name ++
    written letter " (" ++ parameterList letter method ++ written letter ")" ++
    bodyText letter indent method.returnType

/-- The package clause, unless the package is unnamed, and the head of the class. -/
def header (suffix : List α) (surface : Surface α) : List α :=
  (if surface.package = [] then []
    else written letter "package " ++ surface.package ++ written letter ";\n\n") ++
  written letter "public class " ++ surface.simpleName ++ suffix ++ written letter " implements " ++
    surface.canonicalName ++ written letter " \x7b\n"

/-- The compilation unit before it is escaped. -/
def unit (layout : Layout α) (surface : Surface α) : List α :=
  header letter layout.suffix surface ++
    (written letter "\n").intercalate (surface.abstractMethods.map (methodText letter layout.indent)) ++
    written letter "\x7d\n"

end

/-- The compilation unit of names that are texts of code points. -/
def source (layout : Layout CodePoint) (surface : Surface CodePoint) : String :=
  String.ofList (CodePoint.encode (unit .char layout surface))

end Surface
end JavaStubs
