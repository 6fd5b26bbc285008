import Telematics.Binary64.Shortest
import Telematics.Text.Letters

/-!
JSON values. Integers are exact and kept apart from double-precision numbers, and the members of
an object keep their order. A text, and the key of a member, may be torn.

* `Members.put`: a member is replaced where it stands, a new one goes last.
* `get?_put_self`, `get?_put_ne`: what is found after `put`.
* `isStrict`: no infinity and no not-a-number inside, so that the value has a standard document.
* `literal`, `asText`: how a value is shown in messages, and as the text of a response.
-/

namespace Telematics

/-- A JSON value. -/
inductive Json where
  | null
  | bool (value : Bool)
  | int (value : Int)
  | float (value : Binary64)
  | text (value : Letters)
  | list (items : List Json)
  | object (members : List (Letters × Json))
deriving Repr, Inhabited

namespace Json

mutual

/-- Equality of values is decidable. -/
def decEq (a b : Json) : Decidable (a = b) :=
  match a, b with
  | .null, .null => isTrue rfl
  | .bool x, .bool y =>
    if h : x = y then isTrue (by rw [h]) else isFalse (by simpa using h)
  | .int x, .int y =>
    if h : x = y then isTrue (by rw [h]) else isFalse (by simpa using h)
  | .float x, .float y =>
    if h : x = y then isTrue (by rw [h]) else isFalse (by simpa using h)
  | .text x, .text y =>
    if h : x = y then isTrue (by rw [h]) else isFalse (by simpa using h)
  | .list xs, .list ys =>
    match decEqItems xs ys with
    | isTrue h => isTrue (by rw [h])
    | isFalse h => isFalse (by simpa using h)
  | .object xs, .object ys =>
    match decEqMembers xs ys with
    | isTrue h => isTrue (by rw [h])
    | isFalse h => isFalse (by simpa using h)
  | .null, .bool _ | .null, .int _ | .null, .float _ | .null, .text _ | .null, .list _
  | .null, .object _ | .bool _, .null | .bool _, .int _ | .bool _, .float _ | .bool _, .text _
  | .bool _, .list _ | .bool _, .object _ | .int _, .null | .int _, .bool _ | .int _, .float _
  | .int _, .text _ | .int _, .list _ | .int _, .object _ | .float _, .null | .float _, .bool _
  | .float _, .int _ | .float _, .text _ | .float _, .list _ | .float _, .object _
  | .text _, .null | .text _, .bool _ | .text _, .int _ | .text _, .float _ | .text _, .list _
  | .text _, .object _ | .list _, .null | .list _, .bool _ | .list _, .int _ | .list _, .float _
  | .list _, .text _ | .list _, .object _ | .object _, .null | .object _, .bool _
  | .object _, .int _ | .object _, .float _ | .object _, .text _ | .object _, .list _ =>
    isFalse (by simp)

/-- Equality of lists of values is decidable. -/
def decEqItems (xs ys : List Json) : Decidable (xs = ys) :=
  match xs, ys with
  | [], [] => isTrue rfl
  | [], _ :: _ => isFalse (by simp)
  | _ :: _, [] => isFalse (by simp)
  | x :: xs, y :: ys =>
    match decEq x y, decEqItems xs ys with
    | isTrue h, isTrue hs => isTrue (by rw [h, hs])
    | isFalse h, _ => isFalse (by simp [h])
    | _, isFalse hs => isFalse (by simp [hs])

/-- Equality of lists of members is decidable. -/
def decEqMembers (xs ys : List (Letters × Json)) : Decidable (xs = ys) :=
  match xs, ys with
  | [], [] => isTrue rfl
  | [], _ :: _ => isFalse (by simp)
  | _ :: _, [] => isFalse (by simp)
  | (k, x) :: xs, (l, y) :: ys =>
    if key : k = l then
      match decEq x y, decEqMembers xs ys with
      | isTrue h, isTrue hs => isTrue (by rw [key, h, hs])
      | isFalse h, _ => isFalse (by simp [h])
      | _, isFalse hs => isFalse (by simp [hs])
    else isFalse (by simp [key])

end

instance : DecidableEq Json := decEq

/-- The members of an object, in order. -/
abbrev Members := List (Letters × Json)

/-- The value of a member. -/
def Members.get? (members : Members) (key : Letters) : Option Json := members.lookup key

/-- Sets a member: one that is there is replaced where it stands, a new one goes last. -/
def Members.put (key : Letters) (value : Json) : Members → Members
  | [] => [(key, value)]
  | (k, v) :: rest => if k = key then (key, value) :: rest else (k, v) :: Members.put key value rest

@[simp] theorem Members.get?_nil (key : Letters) : Members.get? [] key = none := rfl

theorem Members.get?_cons (members : Members) (k key : Letters) (v : Json) :
    Members.get? ((k, v) :: members) key =
      if k = key then some v else Members.get? members key := by
  by_cases same : k = key
  · subst same
    simp [Members.get?]
  · have differ : (key == k) = false := by simpa using fun h : key = k => same h.symm
    rw [Members.get?, List.lookup_cons, differ, if_neg same]
    rfl

@[simp] theorem Members.get?_put_self (members : Members) (key : Letters) (value : Json) :
    Members.get? (members.put key value) key = some value := by
  induction members with
  | nil => simp [Members.put, Members.get?_cons]
  | cons head rest ih =>
    obtain ⟨k, v⟩ := head
    by_cases same : k = key
    · simp [Members.put, Members.get?_cons, same]
    · simp [Members.put, Members.get?_cons, same, ih]

theorem Members.get?_put_ne {members : Members} {key other : Letters} (value : Json)
    (differ : key ≠ other) : Members.get? (members.put key value) other =
      Members.get? members other := by
  induction members with
  | nil => simp [Members.put, Members.get?_cons, differ]
  | cons head rest ih =>
    obtain ⟨k, v⟩ := head
    by_cases same : k = key
    · simp [Members.put, Members.get?_cons, same, differ]
    · by_cases found : k = other
      · subst found
        simp [Members.put, Members.get?_cons, same]
      · simp [Members.put, Members.get?_cons, same, found, ih]

mutual

/-- No infinity and no not-a-number is inside. -/
def isStrict : Json → Bool
  | .float value => value.isFinite
  | .list items => areStrict items
  | .object members => membersStrict members
  | _ => true

/-- Every item is strict. -/
def areStrict : List Json → Bool
  | [] => true
  | item :: rest => item.isStrict && areStrict rest

/-- Every member is strict. -/
def membersStrict : List (Letters × Json) → Bool
  | [] => true
  | (_, value) :: rest => value.isStrict && membersStrict rest

end

/-- The value counts as present: it is not null, false, zero or empty. -/
def isTruthy : Json → Bool
  | .null => false
  | .bool value => value
  | .int value => value ≠ 0
  | .float value => !value.isZero
  | .text value => value ≠ ""
  | .list items => !items.isEmpty
  | .object members => !members.isEmpty

/-- The integer that a value equals, if it equals one: true is one, false is zero, and a number
    without a fraction is its integer. -/
def integer? : Json → Option Int
  | .int value => some value
  | .bool value => some (if value then 1 else 0)
  | .float value =>
    value.truncate?.filter fun whole => value.isZero || Binary64.ofInt whole = value
  | _ => none

mutual

/-- Two values are the same. Whatever equals an integer is compared as an integer, lists item by
    item, and objects by their keys in any order. A not-a-number is the same as nothing. -/
def isSame : Json → Json → Bool
  | .list items, .list others => areSame items others
  | .object members, .object others =>
    members.length = others.length && membersSame members others
  | .float .nan, _ => false
  | one, other =>
    match one.integer?, other.integer? with
    | some one, some other => one = other
    | _, _ => one = other

/-- Two lists have the same items. -/
def areSame : List Json → List Json → Bool
  | [], [] => true
  | item :: rest, other :: others => item.isSame other && areSame rest others
  | _, _ => false

/-- Every member is among others. -/
def membersSame : List (Letters × Json) → List (Letters × Json) → Bool
  | [], _ => true
  | (key, value) :: rest, others =>
    (match others.lookup key with
      | some other => value.isSame other
      | none => false) && membersSame rest others

end

mutual

/-- The value as messages show it, in characters. -/
def literalChars : Json → List Char
  | .null => "None".toList
  | .bool true => "True".toList
  | .bool false => "False".toList
  | .int value => (Number.decimal value).toList
  | .float value => value.toText.toList
  | .text value => value.quoted.toList
  | .list items => '[' :: literalItems items ++ [']']
  | .object members => '\x7b' :: literalMembers members ++ ['\x7d']

/-- Items with commas between them. -/
def literalItems : List Json → List Char
  | [] => []
  | [item] => item.literalChars
  | item :: rest => item.literalChars ++ ',' :: ' ' :: literalItems rest

/-- Members with commas between them. -/
def literalMembers : List (Letters × Json) → List Char
  | [] => []
  | [(key, value)] => key.quoted.toList ++ ':' :: ' ' :: value.literalChars
  | (key, value) :: rest =>
    key.quoted.toList ++ ':' :: ' ' :: value.literalChars ++ ',' :: ' ' ::
      literalMembers rest

end

/-- The value as messages show it: texts are quoted, and the constants are capitalised words. -/
def literal (value : Json) : String := String.ofList value.literalChars

/-- The value as a text: a text itself, and any other value as messages show it. -/
def asText : Json → Letters
  | .text value => value
  | value => value.literal

/-- The name of the kind of a value, as messages give it. -/
def kind : Json → String
  | .null => "NoneType"
  | .bool _ => "bool"
  | .int _ => "int"
  | .float _ => "float"
  | .text _ => "str"
  | .list _ => "list"
  | .object _ => "dict"

end Json

end Telematics
