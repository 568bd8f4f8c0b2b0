import JavaStubs.Files.Path

/-!
The model of a Java interface: its names, its methods with their types by canonical name, and
where its compiled form was found.
-/
namespace JavaStubs

/-- A type by its canonical source name. -/
structure TypeName where
  name : String
  deriving DecidableEq, Repr

namespace TypeName

/-- The primitive types of Java, and `void`. -/
def primitives : List String :=
  ["boolean", "void", "byte", "char", "short", "int", "long", "float", "double"]

/-- Whether a type is primitive or `void`. -/
def isPrimitive (type : TypeName) : Bool := primitives.contains type.name

def isVoid (type : TypeName) : Bool := type.name == "void"

def isBoolean (type : TypeName) : Bool := type.name == "boolean"

/-- The literal of a type's default value; `void` has none. -/
def defaultValue (type : TypeName) : String :=
  if type.isPrimitive then
    if type.isBoolean then "false" else if type.isVoid then "" else "0"
  else "null"

end TypeName

/-- A parameter of a method. -/
structure Parameter where
  type : TypeName
  name : String
  deriving DecidableEq, Repr

/-- A method of an interface. It is abstract unless the interface gives it a body. -/
structure Method where
  name : String
  returnType : TypeName
  parameters : List Parameter
  isAbstract : Bool
  deriving DecidableEq, Repr

/-- The names of a method's parameter types. -/
def Method.parameterTypes (method : Method) : List String :=
  method.parameters.map (·.type.name)

/-- What tells two methods of an interface apart: the name and the parameter types. -/
def Method.key (method : Method) : String × List String := (method.name, method.parameterTypes)

/-- A described type. The package is empty for the unnamed package. The canonical name is the name
in source text, in which a nested type follows its enclosing type. -/
structure Interface where
  package : String
  simpleName : String
  canonicalName : String
  methods : List Method
  isInterface : Bool
  isPrivate : Bool
  codeSource : Option Path
  deriving DecidableEq, Repr

namespace Interface

/-- The canonical name of a type that no other type encloses. -/
def topLevelName (package simpleName : String) : String :=
  if package.isEmpty then simpleName else package ++ "." ++ simpleName

/-- A described type whose canonical name, when left empty, is that of a top-level type. -/
def describe (package simpleName canonicalName : String) (methods : List Method)
    (isInterface isPrivate : Bool) (codeSource : Option Path) : Interface where
  package := package
  simpleName := simpleName
  canonicalName :=
    if canonicalName.isEmpty then topLevelName package simpleName else canonicalName
  methods := methods
  isInterface := isInterface
  isPrivate := isPrivate
  codeSource := codeSource

/-- The methods that an implementing class has to define, in order. -/
def abstractMethods (type : Interface) : List Method := type.methods.filter (·.isAbstract)

end Interface
end JavaStubs
