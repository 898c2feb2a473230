import Mathlib.Data.Nat.Notation

/-! `trace/dispatch/jni_internal.cpp`: the texts made of reflected classes, methods
and fields. No JNI call fails, and the methods of `java.lang.Class` are those of the
Java specification. -/

namespace QbdiTracer

/-- The primitive types and `void`. -/
inductive JavaPrimitive where
  | boolean
  | byte
  | char
  | short
  | int
  | long
  | float
  | double
  | void
  deriving DecidableEq, Repr

def JavaPrimitive.name : JavaPrimitive → String
  | .boolean => "boolean"
  | .byte => "byte"
  | .char => "char"
  | .short => "short"
  | .int => "int"
  | .long => "long"
  | .float => "float"
  | .double => "double"
  | .void => "void"

/-- The letter of the type in a descriptor. -/
def JavaPrimitive.letter : JavaPrimitive → Char
  | .boolean => 'Z'
  | .byte => 'B'
  | .char => 'C'
  | .short => 'S'
  | .int => 'I'
  | .long => 'J'
  | .float => 'F'
  | .double => 'D'
  | .void => 'V'

/-- The characters the class file format keeps for itself, besides the dot. -/
def reservedChar (c : Char) : Bool := c = ';' || c = '[' || c = '/'

/-- The dotted name of a class or interface. -/
structure JavaClassName where
  text : String
  plain : text.toList.any reservedChar = false
  deriving DecidableEq

/-- A `java.lang.Class` object. -/
inductive JavaClass where
  | primitive (type : JavaPrimitive)
  | named (name : JavaClassName)
  | array (component : JavaClass)
  deriving DecidableEq

namespace JavaClass

def isArray : JavaClass → Bool
  | .array _ => true
  | _ => false

def isPrimitive : JavaClass → Bool
  | .primitive _ => true
  | _ => false

def getComponentType : JavaClass → Option JavaClass
  | .array component => some component
  | _ => none

/-- The element encoding of `Class.getName`, where the dots stay. -/
def elementCode : JavaClass → String
  | .primitive type => type.letter.toString
  | .named name => "L" ++ name.text ++ ";"
  | .array component => "[" ++ component.elementCode

def getName : JavaClass → String
  | .primitive type => type.name
  | .named name => name.text
  | .array component => "[" ++ component.elementCode

def depth : JavaClass → Nat
  | .array component => component.depth + 1
  | _ => 0

end JavaClass

/-- `std::replace(name.begin(), name.end(), '.', '/')`. -/
def replaceDots (name : String) : String :=
  String.ofList (name.toList.map fun c => if c = '.' then '/' else c)

def getJniClassOrJavaClassName : Option JavaClass → String
  | none => "nullptr"
  | some javaClass => javaClass.getName

/-- The names are compared inside the branch for primitive types only. -/
def getJniType : Option JavaClass → String
  | none => ""
  | some javaClass =>
    if javaClass.isArray then "[" ++ getJniType javaClass.getComponentType
    else if javaClass.isPrimitive then
      let name := getJniClassOrJavaClassName (some javaClass)
      if name = "byte" then "B"
      else if name = "short" then "S"
      else if name = "int" then "I"
      else if name = "boolean" then "Z"
      else if name = "char" then "C"
      else if name = "long" then "J"
      else if name = "float" then "F"
      else if name = "double" then "D"
      else if name = "void" then "V"
      else if name = "java.lang.String" then "Ljava/lang/String;"
      else if name = "java.lang.Object" then "Ljava/lang/Object;"
      else if name = "java.lang.Class" then "Ljava/lang/Class;"
      else if name = "java.lang.Throwable" then "Ljava/lang/Throwable;"
      else "L" ++ replaceDots name ++ ";"
    else ""
termination_by javaClass => (javaClass.map fun found => found.depth + 1).getD 0
decreasing_by
  cases javaClass <;> simp [JavaClass.getComponentType, JavaClass.depth]

/-- A `java.lang.reflect.Method` object, or a `Constructor`, which has no return type. -/
structure ReflectedMethod where
  name : String
  parameterTypes : List JavaClass
  returnType : Option JavaClass

def ReflectedMethod.className (method : ReflectedMethod) : String :=
  if method.returnType.isSome then "java.lang.reflect.Method" else "java.lang.reflect.Constructor"

def getReflectedMethodInfo : Option ReflectedMethod → String
  | none => "nullptr"
  | some method =>
    let info := method.parameterTypes.foldl
      (fun info javaClass => info ++ getJniType (some javaClass)) (method.name ++ "(")
    let info := info ++ ")"
    if method.className = "java.lang.reflect.Constructor" then info ++ "V"
    else info ++ getJniType method.returnType

/-- A `java.lang.reflect.Field` object. -/
structure ReflectedField where
  name : String
  type : JavaClass

def getReflectedFieldInfo : Option ReflectedField → String
  | none => "nullptr"
  | some field => field.name ++ ":" ++ getJniType (some field.type)

end QbdiTracer
