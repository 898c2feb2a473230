import Mathlib.Algebra.Order.BigOperators.Group.List
import Mathlib.Algebra.Order.Ring.Nat
import QbdiTracer.Dispatch.JniInternal
import QbdiTracer.Library.PrefixCodes

/-! The JNI descriptors, which can be told apart in a row, and the texts
`jni_internal.cpp` prints for types, fields and methods. -/

namespace QbdiTracer

open PrefixCodes

namespace JavaClass

/-- The descriptor the JNI specification gives a type. -/
def descriptor : JavaClass → String
  | .primitive type => type.letter.toString
  | .named name => "L" ++ replaceDots name.text ++ ";"
  | .array component => "[" ++ component.descriptor

/-- The type is a primitive one or `void`, or an array of such a type. -/
def primitiveElement : JavaClass → Bool
  | .primitive _ => true
  | .named _ => false
  | .array component => component.primitiveElement

def chars (javaClass : JavaClass) : List Char := javaClass.descriptor.toList

@[simp] theorem chars_primitive (type : JavaPrimitive) :
    (JavaClass.primitive type).chars = [type.letter] := by
  cases type <;> rfl

@[simp] theorem chars_named (name : JavaClassName) :
    (JavaClass.named name).chars =
      'L' :: ((name.text.toList.map fun c => if c = '.' then '/' else c) ++ [';']) := by
  simp [chars, descriptor, replaceDots]

@[simp] theorem chars_array (component : JavaClass) :
    (JavaClass.array component).chars = '[' :: component.chars := by
  simp [chars, descriptor]

end JavaClass

theorem JavaPrimitive.letter_injective {first second : JavaPrimitive}
    (same : first.letter = second.letter) : first = second := by
  cases first <;> cases second <;> first | rfl | exact absurd same (by decide)

/-- The letter is none of the characters other descriptors begin with, and does not
end a row of them. -/
theorem JavaPrimitive.letter_apart (type : JavaPrimitive) :
    type.letter ≠ 'L' ∧ type.letter ≠ '[' ∧ type.letter ≠ ')' := by
  cases type <;> decide

namespace JavaClassName

theorem plain_char (name : JavaClassName) {c : Char} (inName : c ∈ name.text.toList) :
    c ≠ ';' ∧ c ≠ '[' ∧ c ≠ '/' := by
  have plain := List.any_eq_false.mp name.plain c inName
  simpa [reservedChar, and_assoc] using plain

/-- No semicolon gets into the descriptor of a class. -/
theorem semicolon_notMem (name : JavaClassName) :
    ';' ∉ name.text.toList.map fun c => if c = '.' then '/' else c := by
  intro member
  obtain ⟨c, inName, image⟩ := List.mem_map.mp member
  by_cases dot : c = '.'
  · rw [if_pos dot] at image
    exact absurd image (by decide)
  · rw [if_neg dot] at image
    exact (name.plain_char inName).1 image

/-- Dots and slashes are not confused: a name has no slash of its own. -/
theorem replaceDots_injective {first second : JavaClassName}
    (same : (first.text.toList.map fun c => if c = '.' then '/' else c) =
      second.text.toList.map fun c => if c = '.' then '/' else c) : first = second := by
  have undo : ∀ name : JavaClassName,
      (name.text.toList.map fun c => if c = '.' then '/' else c).map
        (fun c => if c = '/' then '.' else c) = name.text.toList := by
    intro name
    rw [List.map_map]
    refine (List.map_congr_left fun c inName => ?_).trans (List.map_id _)
    by_cases dot : c = '.'
    · simp [dot]
    · simp [dot, (name.plain_char inName).2.2]
  have texts : first.text = second.text := by
    rw [← String.toList_inj, ← undo first, ← undo second, same]
  cases first
  cases second
  cases texts
  rfl

end JavaClassName

/-- No descriptor is the beginning of another. -/
theorem JavaClass.chars_prefixFree : PrefixFree JavaClass.chars := by
  intro first
  induction first with
  | primitive type =>
    intro second rest rest' same
    obtain ⟨notClass, notArray, -⟩ := type.letter_apart
    cases second with
    | primitive type' =>
      obtain ⟨letters, rests⟩ := List.cons.inj (by simpa using same)
      exact ⟨by rw [JavaPrimitive.letter_injective letters], rests⟩
    | named name => exact absurd (List.cons.inj (by simpa using same)).1 notClass
    | array component => exact absurd (List.cons.inj (by simpa using same)).1 notArray
  | named name =>
    intro second rest rest' same
    cases second with
    | primitive type' =>
      exact absurd (List.cons.inj (by simpa using same)).1.symm type'.letter_apart.1
    | named name' =>
      simp only [chars_named, List.cons_append, List.append_assoc, List.nil_append] at same
      obtain ⟨names, rests⟩ := append_stop_inj name.semicolon_notMem name'.semicolon_notMem
        (List.cons.inj same).2
      exact ⟨by rw [JavaClassName.replaceDots_injective names], rests⟩
    | array component => simp at same
  | array component ih =>
    intro second rest rest' same
    cases second with
    | primitive type' =>
      exact absurd (List.cons.inj (by simpa using same)).1.symm type'.letter_apart.2.1
    | named name => simp at same
    | array component' =>
      rw [chars_array, chars_array] at same
      obtain ⟨components, rests⟩ := ih _ _ _ (List.cons.inj same).2
      exact ⟨by rw [components], rests⟩

theorem JavaClass.chars_beginsApart : BeginsApart JavaClass.chars ')' := by
  intro javaClass
  cases javaClass with
  | primitive type => exact ⟨type.letter, [], chars_primitive type, type.letter_apart.2.2⟩
  | named name => exact ⟨'L', _, chars_named name, by decide⟩
  | array component => exact ⟨'[', _, chars_array component, by decide⟩

theorem getJniType_primitive (type : JavaPrimitive) :
    getJniType (some (.primitive type)) = (JavaClass.primitive type).descriptor := by
  rw [getJniType]
  cases type <;> decide

/-- A class or interface is neither an array nor primitive. -/
theorem getJniType_named (name : JavaClassName) : getJniType (some (.named name)) = "" := by
  rw [getJniType]
  rfl

theorem getJniType_array (component : JavaClass) :
    getJniType (some (.array component)) = "[" ++ getJniType (some component) := by
  rw [getJniType]
  rfl

theorem getJniType_of_primitiveElement {javaClass : JavaClass}
    (primitive : javaClass.primitiveElement = true) :
    getJniType (some javaClass) = javaClass.descriptor := by
  induction javaClass with
  | primitive type => exact getJniType_primitive type
  | named name => cases primitive
  | array component ih => rw [getJniType_array, ih primitive, JavaClass.descriptor]

/-- The descriptor of a class is lost, so the text comes out shorter. -/
theorem getJniType_length_lt {javaClass : JavaClass}
    (reference : javaClass.primitiveElement = false) :
    (getJniType (some javaClass)).length < javaClass.descriptor.length := by
  induction javaClass with
  | primitive type => cases reference
  | named name =>
    rw [getJniType_named, JavaClass.descriptor, String.length_append, String.length_append]
    exact Nat.lt_add_left _ (by decide)
  | array component ih =>
    rw [getJniType_array, JavaClass.descriptor, String.length_append, String.length_append]
    exact Nat.add_lt_add_left (ih reference) _

theorem getJniType_length_le (javaClass : JavaClass) :
    (getJniType (some javaClass)).length ≤ javaClass.descriptor.length := by
  cases element : javaClass.primitiveElement with
  | true => rw [getJniType_of_primitiveElement element]
  | false => exact (getJniType_length_lt element).le

theorem getJniType_eq_iff (javaClass : JavaClass) :
    getJniType (some javaClass) = javaClass.descriptor ↔ javaClass.primitiveElement = true := by
  constructor
  · intro same
    by_contra reference
    have shorter := getJniType_length_lt (Bool.not_eq_true _ ▸ reference)
    rw [same] at shorter
    exact lt_irrefl _ shorter
  · exact getJniType_of_primitiveElement

/-- `name(d1..dn)r`; a constructor returns `void`. -/
def ReflectedMethod.text (method : ReflectedMethod) : String :=
  method.name ++ "(" ++ String.join (method.parameterTypes.map JavaClass.descriptor) ++ ")" ++
    (method.returnType.getD (.primitive .void)).descriptor

/-- No class or interface occurs in the signature. -/
def ReflectedMethod.primitiveElements (method : ReflectedMethod) : Bool :=
  method.parameterTypes.all JavaClass.primitiveElement &&
    (method.returnType.getD (.primitive .void)).primitiveElement

/-- `name:d`. -/
def ReflectedField.text (field : ReflectedField) : String :=
  field.name ++ ":" ++ field.type.descriptor

/-- Two methods get the texts of their signatures, and when they are overloads with
different parameters, different ones. -/
structure OverloadsTold (first second : ReflectedMethod) : Prop where
  first_text : getReflectedMethodInfo (some first) = first.text
  second_text : getReflectedMethodInfo (some second) = second.text
  apart : first.name = second.name → first.parameterTypes ≠ second.parameterTypes →
    getReflectedMethodInfo (some first) ≠ getReflectedMethodInfo (some second)

theorem foldl_getJniType (types : List JavaClass) (info : String) :
    types.foldl (fun info javaClass => info ++ getJniType (some javaClass)) info =
      info ++ String.join (types.map fun javaClass => getJniType (some javaClass)) := by
  induction types generalizing info with
  | nil => simp
  | cons javaClass others ih => simp [ih, String.append_assoc]

/-- The text of a method, with the type texts of the code in the places of the
descriptors. -/
theorem getReflectedMethodInfo_eq (method : ReflectedMethod) :
    getReflectedMethodInfo (some method) = method.name ++ "(" ++
      String.join (method.parameterTypes.map fun javaClass => getJniType (some javaClass)) ++ ")" ++
      getJniType (some (method.returnType.getD (.primitive .void))) := by
  rw [getReflectedMethodInfo, foldl_getJniType, ReflectedMethod.className]
  cases method.returnType with
  | none => simp [getJniType_primitive, JavaClass.descriptor, JavaPrimitive.letter]
  | some type => simp

theorem length_join (texts : List String) :
    (String.join texts).length = (texts.map String.length).sum := by
  induction texts with
  | nil => rfl
  | cons text others ih => simp [ih]

theorem getReflectedMethodInfo_eq_iff (method : ReflectedMethod) :
    getReflectedMethodInfo (some method) = method.text ↔ method.primitiveElements = true := by
  rw [getReflectedMethodInfo_eq, ReflectedMethod.text, ReflectedMethod.primitiveElements,
    Bool.and_eq_true, List.all_eq_true]
  generalize method.returnType.getD (.primitive .void) = result
  constructor
  · intro same
    have lengths := congrArg String.length same
    simp only [String.length_append, length_join, List.map_map] at lengths
    have parameters := List.sum_le_sum (l := method.parameterTypes)
      fun javaClass _ => getJniType_length_le javaClass
    have returned := getJniType_length_le result
    simp only [Function.comp_def] at lengths parameters
    constructor
    · intro javaClass member
      by_contra reference
      have fewer := List.sum_lt_sum _ _ (fun javaClass _ => getJniType_length_le javaClass)
        ⟨javaClass, member, getJniType_length_lt (Bool.not_eq_true _ ▸ reference)⟩
      omega
    · by_contra reference
      have shorter := getJniType_length_lt (Bool.not_eq_true _ ▸ reference)
      omega
  · rintro ⟨parameters, returned⟩
    rw [getJniType_of_primitiveElement returned, List.map_congr_left fun javaClass member =>
      getJniType_of_primitiveElement (parameters javaClass member)]

theorem toList_text (method : ReflectedMethod) :
    method.text.toList = method.name.toList ++ '(' :: (method.parameterTypes.flatMap JavaClass.chars
      ++ ')' :: (method.returnType.getD (.primitive .void)).chars) := by
  have joined : ∀ types : List JavaClass,
      (String.join (types.map JavaClass.descriptor)).toList = types.flatMap JavaClass.chars := by
    intro types
    induction types with
    | nil => rfl
    | cons javaClass others ih => simp [ih, JavaClass.chars]
  simp [ReflectedMethod.text, joined, JavaClass.chars]

/-- Overloads with one text have the same parameters: the descriptors are read back
up to the closing parenthesis. -/
theorem ReflectedMethod.text_parameters {first second : ReflectedMethod}
    (overloads : first.name = second.name) (same : first.text = second.text) :
    first.parameterTypes = second.parameterTypes := by
  have lists := congrArg String.toList same
  rw [toList_text, toList_text, overloads] at lists
  have rows := (List.cons.inj (List.append_cancel_left lists)).2
  exact (JavaClass.chars_prefixFree.flatMap_stop_inj JavaClass.chars_beginsApart rows).1

theorem overloadsTold_iff (first second : ReflectedMethod) :
    OverloadsTold first second ↔
      first.primitiveElements = true ∧ second.primitiveElements = true := by
  rw [← getReflectedMethodInfo_eq_iff, ← getReflectedMethodInfo_eq_iff]
  constructor
  · intro told
    exact ⟨told.first_text, told.second_text⟩
  · rintro ⟨first_text, second_text⟩
    refine ⟨first_text, second_text, fun overloads differ same => ?_⟩
    rw [first_text, second_text] at same
    exact differ (ReflectedMethod.text_parameters overloads same)

theorem getReflectedFieldInfo_eq_iff (field : ReflectedField) :
    getReflectedFieldInfo (some field) = field.text ↔ field.type.primitiveElement = true := by
  rw [← getJniType_eq_iff, getReflectedFieldInfo, ReflectedField.text, String.append_right_inj]

/-- The texts are the right ones exactly where no class or interface is involved. -/
theorem jni_texts_iff (javaClass : JavaClass) (field : ReflectedField)
    (first second : ReflectedMethod) :
    (getJniType (some javaClass) = javaClass.descriptor ↔ javaClass.primitiveElement = true) ∧
    (getReflectedFieldInfo (some field) = field.text ↔ field.type.primitiveElement = true) ∧
    (OverloadsTold first second ↔
      first.primitiveElements = true ∧ second.primitiveElements = true) :=
  ⟨getJniType_eq_iff javaClass, getReflectedFieldInfo_eq_iff field, overloadsTold_iff first second⟩

def javaLangString : JavaClass := .named ⟨"java.lang.String", by decide⟩

def javaLangObject : JavaClass := .named ⟨"java.lang.Object", by decide⟩

/-- `void f(String)` and `void f(Object)` are both printed as `f()V`. -/
theorem string_overload_lost :
    getJniType (some javaLangString) = "" ∧ javaLangString.descriptor = "Ljava/lang/String;" ∧
      getReflectedMethodInfo (some ⟨"f", [javaLangString], some (.primitive .void)⟩) = "f()V" ∧
      getReflectedMethodInfo (some ⟨"f", [javaLangObject], some (.primitive .void)⟩) = "f()V" ∧
      [javaLangString] ≠ [javaLangObject] := by
  have overload : ∀ name : JavaClassName,
      getReflectedMethodInfo (some ⟨"f", [.named name], some (.primitive .void)⟩) = "f()V" := by
    intro name
    simp only [getReflectedMethodInfo_eq, List.map_cons, List.map_nil, getJniType_named,
      Option.getD_some, getJniType_primitive]
    decide
  exact ⟨getJniType_named _, by decide, overload _, overload _, by decide⟩

end QbdiTracer
