import JavaStubs.Java.Interface
import JavaStubs.Text.UnicodeEscape

/-!
The source text of a class that implements an interface trivially: it lies in the interface's
package, is named after the interface with a suffix, and each abstract method returns the default
value of its type. The text is ASCII, other characters being escaped.
-/
namespace JavaStubs.Implementation

open JavaStubs.Text (joined repeated)

/-- How the class is named and laid out. -/
structure Style where
  suffix : String
  indent : String
  deriving DecidableEq, Repr

/-- The suffix and the indent when nothing else is asked for. -/
def Style.standard : Style := ⟨"Impl", "   "⟩

def className (type : Interface) (suffix : String) : String := type.simpleName ++ suffix

/-- The parameters of a method as source text. -/
def parameterList (method : Method) : String :=
  joined ", " (method.parameters.map fun p => p.type.name ++ " " ++ p.name)

/-- The definition of a method: its signature, the return statement unless it is `void`, and the
closing brace, a line each. -/
def methodText (indent : String) (method : Method) : String :=
  indent ++ "public " ++ method.returnType.name ++ " " ++ method.name ++
    " (" ++ parameterList method ++ ") \x7b\n" ++
  (if method.returnType.isVoid then ""
    else repeated indent 2 ++ "return " ++ method.returnType.defaultValue ++ ";\n") ++
  indent ++ "\x7d\n"

/-- The definitions of methods, an empty line between neighbours. -/
def methodsText (indent : String) (methods : List Method) : String :=
  joined "\n" (methods.map (methodText indent))

/-- The package clause, unless the package is unnamed, and the head of the class. -/
def header (type : Interface) (suffix : String) : String :=
  (if type.package.isEmpty then "" else "package " ++ type.package ++ ";\n\n") ++
  "public class " ++ className type suffix ++ " implements " ++ type.canonicalName ++ " \x7b\n"

/-- The compilation unit before its characters are escaped. -/
def plainSource (style : Style) (type : Interface) : String :=
  header type style.suffix ++ methodsText style.indent type.abstractMethods ++ "\x7d\n"

def source (style : Style) (type : Interface) : String :=
  UnicodeEscape.encoded (plainSource style type)

/-- The names on the way to the class: those of its package, then its own. -/
def nameParts (type : Interface) (suffix : String) : List String :=
  (if type.package.isEmpty then [] else Text.fieldsOf '.' type.package) ++ [className type suffix]

/-- The relative name of a file of the class, with a separator between the parts. -/
def fileName (type : Interface) (separator extension suffix : String) : String :=
  joined separator (nameParts type suffix) ++ extension

end JavaStubs.Implementation
