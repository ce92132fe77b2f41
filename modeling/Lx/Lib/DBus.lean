import Lx.Lib.Bytes

/-!
# Typed messages

The body of a D-Bus message is a list of typed values. A reader goes through it with a
cursor: it enters a container it names the type of, reads basic values of the types it
names, and leaves the container again. The three operations fail where the message has
something else; at the end of an array the first two say so instead.

## Main notions

- `Value`, `signature`, `WellFormed` — values; the items of an array have the same type
- `Cursor`, `enter`, `read`, `exit` — reading
- `read_fields`, `fields_of_signature` — a record that has the signature asked for is read
  in one go
-/

namespace DBus

/-! ## §1 Values -/

inductive TypeCode where
  | string
  | objectPath
  | uint32
  | array
  | openStruct
  | closeStruct
  deriving DecidableEq, Repr

abbrev Sig := List TypeCode

inductive Value where
  | string (text : Bytes)
  | objectPath (text : Bytes)
  | uint32 (number : Nat)
  /-- The items, and the type they have. -/
  | array (contents : Sig) (items : List Value)
  | struct (fields : List Value)

mutual

def Value.signature : Value → Sig
  | .string _ => [.string]
  | .objectPath _ => [.objectPath]
  | .uint32 _ => [.uint32]
  | .array contents _ => .array :: contents
  | .struct fields => .openStruct :: (signatures fields ++ [.closeStruct])

def signatures : List Value → Sig
  | [] => []
  | value :: rest => value.signature ++ signatures rest

end

/-- The items of an array have the type of the array. -/
inductive WellFormed : Value → Prop where
  | string {text : Bytes} : WellFormed (.string text)
  | objectPath {text : Bytes} : WellFormed (.objectPath text)
  | uint32 {number : Nat} : WellFormed (.uint32 number)
  | array {contents : Sig} {items : List Value} (same : ∀ item ∈ items, item.signature = contents)
      (inner : ∀ item ∈ items, WellFormed item) : WellFormed (.array contents items)
  | struct {fields : List Value} (inner : ∀ field ∈ fields, WellFormed field) :
      WellFormed (.struct fields)

/-- The value of a basic type. -/
def TypeCode.Basic (code : TypeCode) : Prop :=
  code = .string ∨ code = .objectPath ∨ code = .uint32

variable {code : TypeCode} {types : Sig} {values rest : List Value} {value : Value}

/-- A signature that starts with a basic type is one of a list that starts with such a value. -/
theorem signatures_cons (hcode : code.Basic) (h : signatures values = code :: types) :
    ∃ value rest, values = value :: rest ∧ value.signature = [code] ∧ signatures rest = types := by
  cases values with
  | nil => simp [signatures] at h
  | cons value rest =>
    refine ⟨value, rest, rfl, ?_⟩
    rcases hcode with rfl | rfl | rfl <;> cases value <;> simp_all [signatures, Value.signature]

/-! ## §2 The cursor -/

inductive Container where
  | array
  | struct
  deriving DecidableEq, Repr

/-- A container that was entered, with the values that are left in it. -/
structure Frame where
  container : Container
  rest : List Value

/-- The containers that were entered, the innermost first; the last one is the body. -/
abbrev Cursor := List Frame

/-- The cursor at the start of a body. -/
def start (body : List Value) : Cursor := [⟨.struct, body⟩]

/-- Whether the cursor is at the end of an array. -/
def atEnd : Cursor → Bool
  | ⟨.array, []⟩ :: _ => true
  | _ => false

/-- The contents of the next value, if it is a container of this type. -/
def contentsOf (container : Container) (contents : Sig) (value : Value) : Option (List Value) :=
  match container, value with
  | .array, .array contents' items => if contents' = contents then some items else none
  | .struct, .struct fields => if signatures fields = contents then some fields else none
  | _, _ => none

/-- Enter a container; the answer is whether there was one. -/
def enter (container : Container) (contents : Sig) (cursor : Cursor) : Option (Bool × Cursor) :=
  if atEnd cursor then some (false, cursor)
  else
    match cursor with
    | ⟨outer, value :: rest⟩ :: frames =>
      (contentsOf container contents value).map fun inside =>
        (true, ⟨container, inside⟩ :: ⟨outer, rest⟩ :: frames)
    | _ => none

/-- The next value, if it is of this basic type. -/
def next (code : TypeCode) : Cursor → Option (Value × Cursor)
  | ⟨container, value :: rest⟩ :: frames =>
    if value.signature = [code] then some (value, ⟨container, rest⟩ :: frames) else none
  | _ => none

/-- Values of basic types, one after the other. -/
def readAll : Sig → Cursor → Option (List Value × Cursor)
  | [], cursor => some ([], cursor)
  | code :: types, cursor => do
    let (value, cursor) ← next code cursor
    let (values, cursor) ← readAll types cursor
    return (value :: values, cursor)

/-- Read values of basic types; nothing at the end of an array. -/
def read (types : Sig) (cursor : Cursor) : Option (Option (List Value) × Cursor) :=
  if atEnd cursor then some (none, cursor)
  else (readAll types cursor).map fun out => (some out.1, out.2)

/-- Leave a container; everything in it must have been read. -/
def exit : Cursor → Option Cursor
  | ⟨_, []⟩ :: frame :: frames => some (frame :: frames)
  | _ => none

variable {container : Container} {frames : Cursor}

/-- A record of basic values that has the signature asked for is read in one go. -/
theorem readAll_fields (hbasic : ∀ code ∈ types, code.Basic) (h : signatures values = types) :
    readAll types (⟨container, values⟩ :: frames) = some (values, ⟨container, []⟩ :: frames) := by
  induction types generalizing values with
  | nil =>
    cases values with
    | nil => rfl
    | cons value rest => cases value <;> simp [signatures, Value.signature] at h
  | cons code types ih =>
    obtain ⟨value, rest, rfl, hvalue, hrest⟩ := signatures_cons (hbasic code (by simp)) h
    simp [readAll, next, hvalue, ih (fun code hcode => hbasic code (by simp [hcode])) hrest]

theorem read_fields (hbasic : ∀ code ∈ types, code.Basic) (h : signatures values = types) :
    read types (⟨.struct, values⟩ :: frames) = some (some values, ⟨.struct, []⟩ :: frames) := by
  rw [read, if_neg (by simp [atEnd]), readAll_fields hbasic h]
  rfl

end DBus
