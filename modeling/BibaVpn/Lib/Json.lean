/-
# JSON objects, and the structures read from them

An object is a table from keys to values.  A writer builds one key by key, leaving out what is not
set (`Object.ofEntries`); a reader is a structure each of whose fields looks for one key (`field`,
`fieldOr`) and ignores the others.  So a key that is written and not looked for is lost without an
error, and what a reader gets has to be followed key by key.  The lemmas below make that a
computation: `get_ofEntries` finds a key in what was written, and the `fieldOf` lemmas read it back.
-/
import BibaVpn.Lib.Table
import BibaVpn.Lib.Text

/-- A JSON value.  `other` is a value that no reader here accepts. -/
inductive Json
  | null
  | bool (b : Bool)
  | num (n : Nat)
  | str (s : Text)
  | strs (xs : List Text)
  | other
  deriving DecidableEq

namespace Json

/-! ## 1. Objects -/

abbrev Object := Table String Json

/-- What a writer does: key by key, the value if there is one. -/
abbrev Entries := List (String × Option Json)

def Object.ofEntries : Entries → Object
  | [] => .empty
  | (k, some v) :: es => (ofEntries es).insert k v
  | (_, none) :: es => ofEntries es

/-- The value that is written for a key. -/
def entry : Entries → String → Option Json
  | [], _ => none
  | (k, v) :: es, k' => if k' = k then v else entry es k'

theorem get_ofEntries_of_notMem {es : Entries} {k : String} (h : k ∉ es.map Prod.fst) :
    (Object.ofEntries es).get k = none := by
  induction es with
  | nil => rfl
  | cons e es ih =>
    obtain ⟨k', v⟩ := e
    rw [List.map_cons, List.mem_cons, not_or] at h
    cases v with
    | none => exact ih h.2
    | some v => rw [Object.ofEntries, Table.get_insert, if_neg h.1, ih h.2]

/-- **An object that was written key by key, each once, has what was written.** -/
theorem get_ofEntries {es : Entries} (hn : (es.map Prod.fst).Nodup) (k : String) :
    (Object.ofEntries es).get k = entry es k := by
  induction es with
  | nil => rfl
  | cons e es ih =>
    obtain ⟨k', v⟩ := e
    obtain ⟨hk', hes⟩ := List.nodup_cons.mp hn
    have hrest := get_ofEntries_of_notMem hk'
    simp only [entry]
    split
    · rename_i hk
      subst hk
      cases v with
      | none => exact hrest
      | some v => rw [Object.ofEntries, Table.get_insert, if_pos rfl]
    · rename_i hk
      cases v with
      | none => exact ih hes
      | some v => rw [Object.ofEntries, Table.get_insert, if_neg hk, ih hes]

/-! ## 2. Readers of values -/

def toText : Json → Option Text
  | .str s => some s
  | _ => none

def toBool : Json → Option Bool
  | .bool b => some b
  | _ => none

def toTexts : Json → Option (List Text)
  | .strs xs => some xs
  | _ => none

def toUInt8 : Json → Option UInt8
  | .num n => if n < 2 ^ 8 then some (.ofNat n) else none
  | _ => none

def toUInt32 : Json → Option UInt32
  | .num n => if n < 2 ^ 32 then some (.ofNat n) else none
  | _ => none

def toUInt64 : Json → Option UInt64
  | .num n => if n < 2 ^ 64 then some (.ofNat n) else none
  | _ => none

@[simp] theorem toUInt8_toNat (n : UInt8) : toUInt8 (.num n.toNat) = some n := by
  simp [toUInt8, n.toNat_lt]

@[simp] theorem toUInt32_toNat (n : UInt32) : toUInt32 (.num n.toNat) = some n := by
  simp [toUInt32, n.toNat_lt]

@[simp] theorem toUInt64_toNat (n : UInt64) : toUInt64 (.num n.toNat) = some n := by
  simp [toUInt64, n.toNat_lt]

/-! ## 3. Fields of a structure -/

variable {α : Type}

/-- An `Option` field: it may be missing or `null`. -/
def fieldOf (read : Json → Option α) (k : String) : Option Json → Except String (Option α)
  | none | some .null => .ok none
  | some v =>
    match read v with
    | some a => .ok (some a)
    | none => .error ("invalid type: " ++ k)

/-- A field with a default. -/
def fieldOrOf (read : Json → Option α) (k : String) (d : α) : Option Json → Except String α
  | none => .ok d
  | some v =>
    match read v with
    | some a => .ok a
    | none => .error ("invalid type: " ++ k)

def Object.field (o : Object) (read : Json → Option α) (k : String) : Except String (Option α) :=
  fieldOf read k (o.get k)

def Object.fieldOr (o : Object) (read : Json → Option α) (k : String) (d : α) : Except String α :=
  fieldOrOf read k d (o.get k)

variable (read : Json → Option α) (k : String)

@[simp] theorem fieldOf_none : fieldOf read k none = .ok none := rfl

@[simp] theorem fieldOrOf_none (d : α) : fieldOrOf read k d none = .ok d := rfl

theorem fieldOf_some {read : Json → Option α} {v : Json} {a : α} (hnull : v ≠ .null)
    (h : read v = some a) : fieldOf read k (some v) = .ok (some a) := by
  cases v with
  | null => exact absurd rfl hnull
  | _ => simp [fieldOf, h]

@[simp] theorem fieldOf_num {read : Json → Option α} {n : Nat} {a : α}
    (h : read (.num n) = some a) : fieldOf read k (some (.num n)) = .ok (some a) :=
  fieldOf_some k nofun h

@[simp] theorem fieldOf_bool (b : Bool) : fieldOf toBool k (some (.bool b)) = .ok (some b) := rfl

@[simp] theorem fieldOf_str (s : Text) : fieldOf toText k (some (.str s)) = .ok (some s) := rfl

/-- A text that was written if there was one. -/
@[simp] theorem fieldOf_text (s : Option Text) : fieldOf toText k (s.map .str) = .ok s := by
  cases s <;> rfl

/-- A number that was written if there was one. -/
@[simp] theorem fieldOf_nat {read : Json → Option α} (f : α → Nat)
    (h : ∀ a, read (.num (f a)) = some a) (n : Option α) :
    fieldOf read k (n.map fun a => .num (f a)) = .ok n := by
  cases n with
  | none => rfl
  | some a => exact fieldOf_num k (h a)

@[simp] theorem fieldOrOf_str (d s : Text) : fieldOrOf toText k d (some (.str s)) = .ok s := rfl

@[simp] theorem fieldOrOf_bool (d b : Bool) : fieldOrOf toBool k d (some (.bool b)) = .ok b := rfl

@[simp] theorem fieldOrOf_texts (xs : Option (List Text)) (d : List Text) :
    fieldOrOf toTexts k d (xs.map .strs) = .ok (xs.getD d) := by
  cases xs <;> rfl

end Json
