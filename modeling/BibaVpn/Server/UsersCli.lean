/-
# The users command and the loader

`bibavpn-users` (`bin/users.rs`) changes the users file: it loads it, adds, enables or disables a
user, validates the list and writes it back with `to_writer_pretty`.  The server then loads what it
wrote.

`load_users` has one check that `save` has not: the size of the file.  So the writer can produce a
file that the loader refuses, and from then on neither the server nor the command itself can read
it.

* §1 is the text that `to_writer_pretty` writes;
* §2 reads that text back.  The loader's parser is a parameter of the development (`Serde`), of
  which only the round trip is assumed; §2 shows that there is one;
* §3 is the command;
* §4: what it wrote is loaded exactly if it is at most 1 MiB, and a file at which that happens.
-/
import Mathlib.Data.Nat.Digits.Lemmas
import BibaVpn.Server.Users

namespace BibaVpn.Server

open Machine Lts

/-! ## 1. The text of a users file -/

/-- A hexadecimal digit, in lower case. -/
def hexDigit (n : Nat) : Char := Char.ofNat (if n < 10 then 48 + n else 87 + n)

/-- A character inside a JSON string. -/
def escapeChar (c : Char) : Text :=
  if c = '"' then ['\\', '"']
  else if c = '\\' then ['\\', '\\']
  else if c.toNat = 0x08 then ['\\', 'b']
  else if c.toNat = 0x09 then ['\\', 't']
  else if c.toNat = 0x0A then ['\\', 'n']
  else if c.toNat = 0x0C then ['\\', 'f']
  else if c.toNat = 0x0D then ['\\', 'r']
  else if c.toNat < 0x20 then
    ['\\', 'u', '0', '0', hexDigit (c.toNat / 16), hexDigit (c.toNat % 16)]
  else [c]

/-- What follows the opening quote of a JSON string. -/
def quoted (s : Text) : Text := s.flatMap escapeChar ++ ['"']

/-- A number, in decimal. -/
def decimal (n : Nat) : Text :=
  if n = 0 then ['0'] else (Nat.digits 10 n).reverse.map fun d => Char.ofNat (48 + d)

/-! The fixed parts, from one value to the next. -/

def textEmpty : Text := "\x7b\n  \"users\": []\n\x7d".toList

def textStart : Text := "\x7b\n  \"users\": [\n".toList

def textLabel : Text := "    \x7b\n      \"label\": \"".toList

def textToken : Text := ",\n      \"token\": \"".toList

def textEnabled : Text := ",\n      \"enabled\": ".toList

def textLimit : Text := ",\n      \"max_concurrent\": ".toList

def textEndUser : Text := "\n    \x7d".toList

def textNext : Text := ",\n".toList

def textEnd : Text := "\n  ]\n\x7d".toList

/-- The end of a user: `max_concurrent` is left out if there is none. -/
def prettyLimit : Option UInt64 → Text
  | none => textEndUser
  | some n => textLimit ++ decimal n.toNat ++ textEndUser

def prettyBool (b : Bool) : Text := if b then "true".toList else "false".toList

/-- One user, indented as an element of the array. -/
def prettyUser (u : User) : Text :=
  textLabel ++ quoted u.label ++ textToken ++ quoted u.token ++ textEnabled ++
    prettyBool u.enabled ++ prettyLimit u.maxConcurrent

/-- The elements after the first. -/
def prettyMore : List User → Text
  | [] => textEnd
  | u :: us => textNext ++ prettyUser u ++ prettyMore us

/-- `serde_json::to_writer_pretty`. -/
def toWriterPretty (file : UsersFile) : Text :=
  match file.users with
  | [] => textEmpty
  | u :: us => textStart ++ prettyUser u ++ prettyMore us

/-- What `save` puts into the file. -/
def savedBytes (file : UsersFile) : Bytes := Text.toUtf8 (toWriterPretty file ++ ['\n'])

example : toWriterPretty ⟨[⟨['a'], ['b', '"'], true, none⟩]⟩ =
    ("\x7b\n  \"users\": [\n    \x7b\n      \"label\": \"a\",\n      \"token\": \"b\\\"\",\n" ++
      "      \"enabled\": true\n    \x7d\n  ]\n\x7d").toList := by decide

/-! ## 2. The text determines the file -/

def hexValue (c : Char) : Nat := if c.toNat < 58 then c.toNat - 48 else c.toNat - 87

/-- The rest of an escape, after the backslash. -/
def unescapeTail : Text → Option (Char × Text)
  | 'u' :: _ :: _ :: a :: b :: r => some (Char.ofNat (16 * hexValue a + hexValue b), r)
  | 'b' :: r => some (Char.ofNat 0x08, r)
  | 't' :: r => some (Char.ofNat 0x09, r)
  | 'n' :: r => some (Char.ofNat 0x0A, r)
  | 'f' :: r => some (Char.ofNat 0x0C, r)
  | 'r' :: r => some (Char.ofNat 0x0D, r)
  | c :: r => some (c, r)
  | [] => none

/-- The first character of what is left of a JSON string. -/
def unescape : Text → Option (Char × Text)
  | [] => none
  | c :: r => if c = '\\' then unescapeTail r else some (c, r)

theorem hexValue_hexDigit : ∀ n < 32,
    16 * hexValue (hexDigit (n / 16)) + hexValue (hexDigit (n % 16)) = n := by decide

theorem unescape_escapeChar (c : Char) (r : Text) : unescape (escapeChar c ++ r) = some (c, r) := by
  have hof : ∀ n, c.toNat = n → Char.ofNat n = c := fun n hn => by rw [← hn, Char.ofNat_toNat]
  unfold escapeChar
  split
  · rename_i h
    rw [h]
    rfl
  · split
    · rename_i h
      rw [h]
      rfl
    · rename_i hq hb
      split
      · rename_i h
        exact congrArg (fun x => some (x, r)) (hof _ h)
      · split
        · rename_i h
          exact congrArg (fun x => some (x, r)) (hof _ h)
        · split
          · rename_i h
            exact congrArg (fun x => some (x, r)) (hof _ h)
          · split
            · rename_i h
              exact congrArg (fun x => some (x, r)) (hof _ h)
            · split
              · rename_i h
                exact congrArg (fun x => some (x, r)) (hof _ h)
              · split
                · rename_i h
                  exact congrArg (fun x => some (x, r))
                    (hof _ (hexValue_hexDigit c.toNat h).symm)
                · exact if_neg hb

/-- The quote that ends a string is no character of it. -/
theorem escapeChar_ne_quote (c : Char) (r r' : Text) : escapeChar c ++ r ≠ '"' :: r' := by
  intro h
  have hu := unescape_escapeChar c r
  rw [h] at hu
  have hc : c = '"' := by
    have : unescape ('"' :: r') = some ('"', r') := rfl
    rw [this] at hu
    cases hu
    rfl
  rw [hc] at h
  cases h

variable {s r r' : Text} {n : Nat} {bs : Bytes}

theorem quoted_inj {t : Text} (h : quoted s ++ r = quoted t ++ r') : s = t ∧ r = r' := by
  induction s generalizing t with
  | nil =>
    cases t with
    | nil => exact ⟨rfl, List.append_cancel_left h⟩
    | cons d t =>
      simp only [quoted, List.flatMap_nil, List.flatMap_cons, List.append_assoc, List.nil_append]
        at h
      exact absurd h.symm (escapeChar_ne_quote d _ _)
  | cons c s ih =>
    cases t with
    | nil =>
      simp only [quoted, List.flatMap_nil, List.flatMap_cons, List.append_assoc, List.nil_append]
        at h
      exact absurd h (escapeChar_ne_quote c _ _)
    | cons d t =>
      simp only [quoted, List.flatMap_cons, List.append_assoc] at h
      have hu := congrArg unescape h
      rw [unescape_escapeChar, unescape_escapeChar] at hu
      obtain ⟨hc, hrest⟩ := Prod.mk.inj (Option.some.inj hu)
      obtain ⟨rfl, hr⟩ := ih (t := t) (by simpa only [quoted, List.append_assoc] using hrest)
      exact ⟨by rw [hc], hr⟩

/-- Two texts without a character `x` that are both followed by it. -/
theorem append_cons_inj {x : Char} {t : Text} (hs : x ∉ s) (ht : x ∉ t)
    (h : s ++ x :: r = t ++ x :: r') : s = t ∧ r = r' := by
  induction s generalizing t with
  | nil =>
    cases t with
    | nil => exact ⟨rfl, (List.cons.inj h).2⟩
    | cons d t => exact absurd (by rw [(List.cons.inj h).1]; exact List.mem_cons_self) ht
  | cons c s ih =>
    cases t with
    | nil => exact absurd (by rw [← (List.cons.inj h).1]; exact List.mem_cons_self) hs
    | cons d t =>
      obtain ⟨hc, hrest⟩ := List.cons.inj h
      obtain ⟨rfl, hr⟩ := ih (fun hm => hs (List.mem_cons_of_mem c hm))
        (fun hm => ht (List.mem_cons_of_mem d hm)) hrest
      exact ⟨by rw [hc], hr⟩

theorem digitChar_inj :
    ∀ d < 10, ∀ d' < 10, Char.ofNat (48 + d) = Char.ofNat (48 + d') → d = d' := by
  decide

theorem digitChar_ne_newline : ∀ d < 10, Char.ofNat (48 + d) ≠ '\n' := by decide

theorem newline_notMem_decimal (n : Nat) : '\n' ∉ decimal n := by
  unfold decimal
  split
  · decide
  · intro h
    obtain ⟨d, hd, heq⟩ := List.mem_map.mp h
    exact digitChar_ne_newline d (Nat.digits_lt_base (by decide) (List.mem_reverse.mp hd)) heq

theorem map_digitChar_inj : ∀ {xs ys : List Nat}, (∀ d ∈ xs, d < 10) → (∀ d ∈ ys, d < 10) →
    xs.map (fun d => Char.ofNat (48 + d)) = ys.map (fun d => Char.ofNat (48 + d)) → xs = ys
  | [], [], _, _, _ => rfl
  | [], _ :: _, _, _, h => by cases h
  | _ :: _, [], _, _, h => by cases h
  | x :: xs, y :: ys, hx, hy, h => by
    obtain ⟨hd, hrest⟩ := List.cons.inj h
    rw [digitChar_inj x (hx x List.mem_cons_self) y (hy y List.mem_cons_self) hd,
      map_digitChar_inj (fun d hd => hx d (List.mem_cons_of_mem x hd))
        (fun d hd => hy d (List.mem_cons_of_mem y hd)) hrest]

theorem decimal_inj {m : Nat} (h : decimal n = decimal m) : n = m := by
  have hlt : ∀ k d, d ∈ (Nat.digits 10 k).reverse → d < 10 := fun k d hd =>
    Nat.digits_lt_base (by decide) (List.mem_reverse.mp hd)
  have heq : ∀ k, decimal k = (if k = 0 then [0] else (Nat.digits 10 k).reverse).map
      fun d => Char.ofNat (48 + d) := fun k => by
    unfold decimal
    split <;> rfl
  have hlt' : ∀ k d, d ∈ (if k = 0 then [0] else (Nat.digits 10 k).reverse) → d < 10 := by
    intro k d hd
    split at hd
    · rw [List.mem_singleton.mp hd]
      decide
    · exact hlt k d hd
  rw [heq, heq] at h
  have hlists := map_digitChar_inj (hlt' n) (hlt' m) h
  have hval : ∀ k,
      Nat.ofDigits 10 (if k = 0 then [0] else (Nat.digits 10 k).reverse).reverse = k := by
    intro k
    split
    · rename_i h0
      rw [h0]
      rfl
    · rw [List.reverse_reverse, Nat.ofDigits_digits]
  rw [← hval n, ← hval m, hlists]

theorem textLimit_eq : textLimit = ',' :: "\n      \"max_concurrent\": ".toList := by decide

theorem textEndUser_eq : textEndUser = '\n' :: "    \x7d".toList := by decide

theorem prettyLimit_inj {x y : Option UInt64} (h : prettyLimit x ++ r = prettyLimit y ++ r') :
    x = y ∧ r = r' := by
  have hne : ∀ {s t : Text}, textEndUser ++ s ≠ textLimit ++ t := fun h => by
    rw [textEndUser_eq, textLimit_eq] at h
    cases (List.cons.inj h).1
  cases x with
  | none =>
    cases y with
    | none => exact ⟨rfl, List.append_cancel_left h⟩
    | some m =>
      simp only [prettyLimit, List.append_assoc] at h
      exact absurd h hne
  | some n =>
    cases y with
    | none =>
      simp only [prettyLimit, List.append_assoc] at h
      exact absurd h.symm hne
    | some m =>
      simp only [prettyLimit, List.append_assoc] at h
      have h := List.append_cancel_left h
      rw [textEndUser_eq, List.cons_append, List.cons_append] at h
      obtain ⟨hd, hr⟩ := append_cons_inj (newline_notMem_decimal _) (newline_notMem_decimal _) h
      exact ⟨by rw [UInt64.toNat_inj.mp (decimal_inj hd)], List.append_cancel_left hr⟩

theorem prettyBool_inj {a b : Bool} (h : prettyBool a ++ r = prettyBool b ++ r') :
    a = b ∧ r = r' := by
  have hhead : ∀ b s, (prettyBool b ++ s).head? = some (if b then 't' else 'f') := by
    intro b s
    cases b <;> simp [prettyBool]
  have hab : a = b := by
    have heq := congrArg List.head? h
    rw [hhead, hhead] at heq
    revert heq
    cases a <;> cases b <;> decide
  subst hab
  exact ⟨rfl, List.append_cancel_left h⟩

theorem prettyUser_inj {u v : User} (h : prettyUser u ++ r = prettyUser v ++ r') :
    u = v ∧ r = r' := by
  simp only [prettyUser, List.append_assoc] at h
  have h := List.append_cancel_left h
  obtain ⟨hlabel, h⟩ := quoted_inj h
  have h := List.append_cancel_left h
  obtain ⟨htoken, h⟩ := quoted_inj h
  have h := List.append_cancel_left h
  obtain ⟨henabled, h⟩ := prettyBool_inj h
  obtain ⟨hlimit, hr⟩ := prettyLimit_inj h
  cases u
  cases v
  simp only at hlabel htoken henabled hlimit
  subst hlabel htoken henabled hlimit
  exact ⟨rfl, hr⟩

theorem textEnd_ne : textEnd ≠ textNext ++ s := by
  have hend : textEnd = '\n' :: "  ]\n\x7d".toList := by decide
  have hnext : textNext = [',', '\n'] := by decide
  rw [hend, hnext]
  intro h
  cases (List.cons.inj h).1

theorem textEmpty_ne : textEmpty ≠ textStart ++ s := by
  have hempty : textEmpty[14]? = some ']' := by decide
  have hstart : (textStart ++ s)[14]? = some '\n' := by
    rw [List.getElem?_append_left (by decide)]
    decide
  intro h
  rw [h, hstart] at hempty
  cases hempty

theorem prettyMore_inj {us vs : List User} (h : prettyMore us = prettyMore vs) : us = vs := by
  induction us generalizing vs with
  | nil =>
    cases vs with
    | nil => rfl
    | cons v vs =>
      rw [prettyMore, prettyMore, List.append_assoc] at h
      exact absurd h textEnd_ne
  | cons u us ih =>
    cases vs with
    | nil =>
      rw [prettyMore, prettyMore, List.append_assoc] at h
      exact absurd h.symm textEnd_ne
    | cons v vs =>
      simp only [prettyMore, List.append_assoc] at h
      have h := List.append_cancel_left h
      obtain ⟨rfl, hrest⟩ := prettyUser_inj h
      rw [ih hrest]

/-- **Different files have different texts.** -/
theorem toWriterPretty_inj {file file' : UsersFile}
    (h : toWriterPretty file = toWriterPretty file') : file = file' := by
  obtain ⟨us⟩ := file
  obtain ⟨vs⟩ := file'
  cases us with
  | nil =>
    cases vs with
    | nil => rfl
    | cons v vs =>
      simp only [toWriterPretty, List.append_assoc] at h
      exact absurd h textEmpty_ne
  | cons u us =>
    cases vs with
    | nil =>
      simp only [toWriterPretty, List.append_assoc] at h
      exact absurd h.symm textEmpty_ne
    | cons v vs =>
      simp only [toWriterPretty, List.append_assoc] at h
      have h := List.append_cancel_left h
      obtain ⟨rfl, hrest⟩ := prettyUser_inj h
      rw [prettyMore_inj hrest]

/-- `serde_json`: it reads back what it wrote. -/
structure Serde where
  fromSlice : Bytes → Option UsersFile
  roundTrip : ∀ file, fromSlice (savedBytes file) = some file

theorem savedBytes_inj {file file' : UsersFile} (h : savedBytes file = savedBytes file') :
    file = file' := by
  have htext := congrArg Text.fromUtf8 h
  simp only [savedBytes, Text.fromUtf8_toUtf8, Option.some.injEq] at htext
  exact toWriterPretty_inj (List.append_cancel_right htext)

instance : Nonempty Serde := by
  classical
  refine ⟨⟨fun bytes => if h : ∃ file, savedBytes file = bytes then some h.choose else none,
    fun file => ?_⟩⟩
  have hex : ∃ file', savedBytes file' = savedBytes file := ⟨file, rfl⟩
  rw [dif_pos hex, savedBytes_inj hex.choose_spec]

/-! ## 3. The command -/

/-- `hex::encode`. -/
def hexEncode (bs : Bytes) : Text :=
  bs.flatMap fun b => [hexDigit (b.toNat / 16), hexDigit (b.toNat % 16)]

/-- The token that `add` makes of 32 random bytes. -/
def tokenOf (secret : Nat) : Text := hexEncode (toBe 32 secret)

/-- The actions of the command that change the file; `secret` is what `OsRng` gives. -/
inductive Mutation
  | add (label : Text) (maxConcurrent : Option UInt64) (secret : BitVec 256)
  | enable (label : Text)
  | disable (label : Text)
  deriving DecidableEq, Repr

/-- `iter_mut().find(..)`, and `enabled` of what it found. -/
def setEnabled (label : Text) (enabled : Bool) : List User → Option (List User)
  | [] => none
  | u :: us =>
    if u.label = label then some ({ u with enabled := enabled } :: us)
    else (setEnabled label enabled us).map (u :: ·)

def Mutation.apply (users : List User) : Mutation → Except String (List User)
  | .add label maxConcurrent secret =>
    .ok (users ++ [⟨label, tokenOf secret.toNat, true, maxConcurrent⟩])
  | .enable label =>
    match setEnabled label true users with
    | some users => .ok users
    | none => .error "user not found"
  | .disable label =>
    match setEnabled label false users with
    | some users => .ok users
    | none => .error "user not found"

/-- The users file, if it exists, and whether its lock file does. -/
structure Disk where
  file : Option Bytes
  locked : Bool
  deriving DecidableEq, Repr

/-- What a mutation starts from. -/
def loadForMutation (S : Serde) (disk : Disk) : Mutation → Except String UsersFile
  | .add _ _ _ =>
    match disk.file with
    | some data => loadUsers S.fromSlice (some data)
    | none => .ok ⟨[]⟩
  | _ =>
    match disk.file with
    | some data => loadUsers S.fromSlice (some data)
    | none => .error "users file does not exist"

/-- `save`: `io` if the temporary file could be written and renamed. -/
def save (io : Bool) (disk : Disk) (users : UsersFile) : Disk × Except String Unit :=
  match validateUsers users with
  | .error e => (disk, .error e)
  | .ok () =>
    if io then ({ disk with file := some (savedBytes users) }, .ok ())
    else (disk, .error "replace users file")

/-- `main`, for a mutation; the lock file is gone again at the end. -/
def mutate (S : Serde) (io : Bool) (disk : Disk) (m : Mutation) : Disk × Except String Unit :=
  if disk.locked then
    (disk, .error
      "user registry is locked; remove the lock file only if no administrator is running")
  else match loadForMutation S disk m with
    | .error e => (disk, .error e)
    | .ok file =>
      match m.apply file.users with
      | .error e => (disk, .error e)
      | .ok users => save io disk ⟨users⟩

/-- The file that `save` would write is one that `load_users` takes. -/
def Fits (users : List User) : Prop := (savedBytes ⟨users⟩).length ≤ 1024 * 1024

/-- The disk, and the list of users as the mutations made it. -/
structure Admin where
  disk : Disk
  users : List User

/-- A mutation that reports success. -/
def Admin.step (S : Serde) (s : Admin) (act : Mutation × Bool) : Option Admin :=
  match mutate S act.2 s.disk act.1, act.1.apply s.users with
  | (disk, .ok ()), .ok users => some ⟨disk, users⟩
  | _, _ => none

/-- What is on the disk loads, as the list. -/
def Admin.Loads (S : Serde) (s : Admin) : Prop := loadUsers S.fromSlice s.disk.file = .ok ⟨s.users⟩

/-- The mutated list is small enough. -/
def Admin.Small (s : Admin) (act : Mutation × Bool) : Prop :=
  ∀ users, act.1.apply s.users = .ok users → Fits users

/-! ## 4. What was written and what is loaded -/

/-- What is loaded from a file is what every mutation starts from. -/
theorem loadForMutation_of_load {S : Serde} {disk : Disk} {file : UsersFile}
    (h : loadUsers S.fromSlice disk.file = .ok file) (m : Mutation) :
    loadForMutation S disk m = .ok file := by
  cases hf : disk.file with
  | none =>
    rw [hf] at h
    cases h
  | some data =>
    rw [hf] at h
    cases m <;> simp only [loadForMutation, hf] <;> exact h

/-- **What `save` wrote is loaded exactly if it is at most 1 MiB.** -/
theorem load_saved_iff {S : Serde} {users : List User} (hv : UsersFile.Valid ⟨users⟩) :
    loadUsers S.fromSlice (some (savedBytes ⟨users⟩)) = .ok ⟨users⟩ ↔ Fits users := by
  rw [loadUsers_iff]
  constructor
  · rintro ⟨bytes, hbytes, hlen, -⟩
    cases hbytes
    exact hlen
  · intro hfit
    exact ⟨_, rfl, hfit, S.roundTrip _, hv⟩

/-- **A mutation of a file that loads**: if it reports success, the mutated list is valid and
written. -/
theorem Admin.step_cases {S : Serde} {s t : Admin} {act : Mutation × Bool} (h : s.Loads S)
    (hs : s.step S act = some t) :
    act.1.apply s.users = .ok t.users ∧ UsersFile.Valid ⟨t.users⟩ ∧
      t.disk.file = some (savedBytes ⟨t.users⟩) := by
  unfold Admin.step at hs
  split at hs
  · rename_i disk users hm ha
    cases hs
    refine ⟨ha, ?_⟩
    unfold mutate at hm
    split at hm
    · cases hm
    · rw [loadForMutation_of_load h] at hm
      simp only [ha] at hm
      unfold save at hm
      split at hm
      · cases hm
      · rename_i hv
        split at hm
        · cases hm
          exact ⟨(validateUsers_iff _).mp hv, rfl⟩
        · cases hm
  · cases hs

/-- **The command and the loader.**  A mutation that reports success leaves a file that loads, as
the mutated list, exactly if the list fits; and so does every sequence of mutations that each
fit. -/
theorem mutation_loads_iff (S : Serde) :
    (∀ (s t : Admin) act, s.Loads S → s.step S act = some t → (t.Loads S ↔ s.Small act)) ∧
    ∀ s t : Admin, s.Loads S → Path (Admin.step S) Admin.Small s t → t.Loads S := by
  have hstep : ∀ (s t : Admin) act, s.Loads S → s.step S act = some t →
      (t.Loads S ↔ s.Small act) := by
    intro s t act h hs
    obtain ⟨ha, hv, hfile⟩ := Admin.step_cases h hs
    rw [Admin.Loads, hfile, load_saved_iff hv]
    constructor
    · intro hfit users hu
      cases ha.symm.trans hu
      exact hfit
    · intro hsmall
      exact hsmall t.users ha
  exact ⟨hstep, fun s t h hp =>
    hp.invariant h fun u act v hu hsmall hs => (hstep u v act hu hs).mpr hsmall⟩

/-! ## 5. A file at which the loader stops -/

/-- A user as `add` makes it, with its number for label and secret. -/
def numbered (i : Nat) : User := ⟨hexEncode (toBe 4 i), tokenOf i, true, none⟩

/-- What is needed of the characters of a token. -/
structure Plain (c : Char) : Prop where
  size : c.utf8Size = 1
  escape : escapeChar c = [c]
  solid : Text.isWhitespace c = false
  printable : Text.isControl c = false

theorem plain_hexDigit (n : Nat) (h : n < 16) : Plain (hexDigit n) := by
  have hall : ∀ n < 16, (hexDigit n).utf8Size = 1 ∧ escapeChar (hexDigit n) = [hexDigit n] ∧
      Text.isWhitespace (hexDigit n) = false ∧ Text.isControl (hexDigit n) = false := by decide
  obtain ⟨h1, h2, h3, h4⟩ := hall n h
  exact ⟨h1, h2, h3, h4⟩

theorem plain_of_mem_hexEncode {c : Char} (h : c ∈ hexEncode bs) : Plain c := by
  obtain ⟨b, -, hc⟩ := List.mem_flatMap.mp h
  have hb : b.toNat < 256 := b.toNat_lt
  rcases List.mem_cons.mp hc with rfl | hc
  · exact plain_hexDigit _ (by omega)
  · rw [List.mem_singleton.mp hc]
    exact plain_hexDigit _ (by omega)

theorem length_hexEncode (bs : Bytes) : (hexEncode bs).length = 2 * bs.length := by
  induction bs with
  | nil => rfl
  | cons b bs ih =>
    simp only [hexEncode, List.flatMap_cons, List.length_append, List.length_cons] at ih ⊢
    rw [ih]
    simp
    omega

theorem hexDigit_inj : ∀ a < 16, ∀ b < 16, hexDigit a = hexDigit b → a = b := by decide

theorem hexEncode_inj {bs' : Bytes} (h : hexEncode bs = hexEncode bs') : bs = bs' := by
  induction bs generalizing bs' with
  | nil =>
    cases bs' with
    | nil => rfl
    | cons b bs' => cases h
  | cons a bs ih =>
    cases bs' with
    | nil => cases h
    | cons b bs' =>
      have ha : a.toNat < 256 := a.toNat_lt
      have hb : b.toNat < 256 := b.toNat_lt
      obtain ⟨h1, h⟩ := List.cons.inj h
      obtain ⟨h2, h⟩ := List.cons.inj h
      have hhigh := hexDigit_inj _ (by omega) _ (by omega) h1
      have hlow := hexDigit_inj _ (by omega) _ (by omega) h2
      have hab : a = b := UInt8.toNat_inj.mp (by omega)
      rw [hab, ih h]

theorem toBe_inj {k i j : Nat} (hi : i < 256 ^ k) (hj : j < 256 ^ k) (h : toBe k i = toBe k j) :
    i = j := by rw [← fromBe_toBe hi, ← fromBe_toBe hj, h]

theorem quoted_hexEncode (bs : Bytes) : quoted (hexEncode bs) = hexEncode bs ++ ['"'] := by
  have hesc : ∀ s : Text, (∀ c ∈ s, escapeChar c = [c]) → s.flatMap escapeChar = s := by
    intro s hs
    induction s with
    | nil => rfl
    | cons c s ih =>
      rw [List.flatMap_cons, hs c List.mem_cons_self,
        ih fun c' hc' => hs c' (List.mem_cons_of_mem c hc')]
      rfl
  rw [quoted, hesc _ fun c hc => (plain_of_mem_hexEncode hc).escape]

theorem numbered_label (i : Nat) : (numbered i).label = hexEncode (toBe 4 i) := rfl

theorem numbered_token (i : Nat) : (numbered i).token = tokenOf i := by simp only [numbered]

theorem trim_hexEncode (bs : Bytes) : Text.trim (hexEncode bs) = hexEncode bs :=
  Text.trim_of_solid fun _ hc => (plain_of_mem_hexEncode hc).solid

theorem isEmpty_hexEncode (h : bs ≠ []) : (hexEncode bs).isEmpty = false := by
  cases bs with
  | nil => exact absurd rfl h
  | cons b bs => rfl

theorem toBe_ne_nil {k : Nat} (hk : k ≠ 0) (n : Nat) : toBe k n ≠ [] := fun h => by
  have hlen := length_toBe k n
  rw [h] at hlen
  exact hk hlen.symm

/-- A token that is too long to be one of the placeholders. -/
theorem validateResolvedToken_hexEncode (h : 5 ≤ bs.length) :
    validateResolvedToken (hexEncode bs) = .ok () := by
  have hne : bs ≠ [] := fun h0 => by
    rw [h0] at h
    cases h
  have hlower : (Text.toAsciiLowercase (hexEncode bs)).length = 2 * bs.length := by
    rw [Text.toAsciiLowercase, List.length_map, length_hexEncode]
  have hlist : ∀ d ∈ ["change-me".toList, "changeme".toList, "test".toList], d.length ≤ 9 := by
    decide
  have hnot : Text.toAsciiLowercase (hexEncode bs) ∉
      ["change-me".toList, "changeme".toList, "test".toList] := fun hm => by
    have := hlist _ hm
    omega
  have hdeny : isTokenDenylisted (hexEncode bs) = false := by
    simp only [isTokenDenylisted, trim_hexEncode, isEmpty_hexEncode hne, Bool.false_or]
    simpa only [List.contains_eq_mem, decide_eq_false_iff_not] using hnot
  simp only [validateResolvedToken, trim_hexEncode, isEmpty_hexEncode hne, hdeny,
    Bool.false_eq_true, if_false]

theorem numbered_valid (i : Nat) : (numbered i).Valid where
  label := by
    rw [numbered_label, trim_hexEncode]
    exact isEmpty_hexEncode (toBe_ne_nil (by decide) i)
  label_len := by
    rw [numbered_label, Text.len_eq_length fun c hc => (plain_of_mem_hexEncode hc).size,
      length_hexEncode, length_toBe]
    decide
  label_control := by
    rw [numbered_label, List.any_eq_false]
    intro c hc
    rw [(plain_of_mem_hexEncode hc).printable]
    exact Bool.false_ne_true
  label_trim := by rw [numbered_label, trim_hexEncode]
  token := by
    rw [numbered_token, tokenOf]
    exact validateResolvedToken_hexEncode (by rw [length_toBe]; decide)
  token_trim := by rw [numbered_token, tokenOf, trim_hexEncode]
  limit := nofun

theorem numbered_file_valid (hn : n < 2 ^ 32) : UsersFile.Valid ⟨(List.range n).map numbered⟩ := by
  have hinj : ∀ k, 2 ^ 32 ≤ 256 ^ k → ∀ i ∈ List.range n, ∀ j ∈ List.range n,
      hexEncode (toBe k i) = hexEncode (toBe k j) → i = j := by
    intro k hk i hi j hj h
    rw [List.mem_range] at hi hj
    exact toBe_inj (by omega) (by omega) (hexEncode_inj h)
  refine ⟨fun u hu => ?_, ?_, ?_⟩
  · obtain ⟨i, -, rfl⟩ := List.mem_map.mp hu
    exact numbered_valid i
  · rw [List.map_map, show User.label ∘ numbered = fun i => hexEncode (toBe 4 i) from
      funext numbered_label]
    exact List.Nodup.map_on (hinj 4 (by decide)) List.nodup_range
  · rw [List.map_map, show User.token ∘ numbered = tokenOf from funext numbered_token]
    exact List.Nodup.map_on (hinj 32 (by decide)) List.nodup_range

theorem len_prettyUser_numbered (i : Nat) : Text.len (prettyUser (numbered i)) = 143 := by
  have hhex : ∀ bs, Text.len (hexEncode bs) = 2 * bs.length := fun bs => by
    rw [Text.len_eq_length fun c hc => (plain_of_mem_hexEncode hc).size, length_hexEncode]
  have hfixed : Text.len textLabel + Text.len textToken + Text.len textEnabled +
      Text.len (prettyBool true) + Text.len (prettyLimit none) +
      2 * Text.len ['"'] = 71 := by decide
  simp only [prettyUser, numbered, tokenOf, quoted_hexEncode, Text.len_append, hhex, length_toBe]
  omega

theorem len_prettyMore_numbered (is : List Nat) :
    Text.len (prettyMore (is.map numbered)) = 145 * is.length + Text.len textEnd := by
  induction is with
  | nil => simp [prettyMore]
  | cons i is ih =>
    have hnext : Text.len textNext = 2 := by decide
    simp only [List.map_cons, prettyMore, Text.len_append, ih, len_prettyUser_numbered, hnext,
      List.length_cons]
    omega

/-- The size of the file with `n + 1` numbered users. -/
theorem length_savedBytes_numbered (n : Nat) :
    (savedBytes ⟨(List.range (n + 1)).map numbered⟩).length = 145 * n + 165 := by
  have hfixed : Text.len textStart + Text.len textEnd + Text.len ['\n'] = 22 := by decide
  have hlen : (savedBytes ⟨(List.range (n + 1)).map numbered⟩).length =
      Text.len (toWriterPretty ⟨(List.range (n + 1)).map numbered⟩ ++ ['\n']) := rfl
  rw [hlen, List.range_succ_eq_map, List.map_cons]
  have hmore := len_prettyMore_numbered ((List.range n).map Nat.succ)
  rw [List.length_map, List.length_range] at hmore
  simp only [toWriterPretty, Text.len_append, len_prettyUser_numbered, hmore]
  omega

/-- The file with the first `n` numbered users. -/
def numberedAdmin (n : Nat) : Admin :=
  ⟨⟨some (savedBytes ⟨(List.range n).map numbered⟩), false⟩, (List.range n).map numbered⟩

theorem numberedAdmin_fits_iff : Fits (numberedAdmin (n + 1)).users ↔ n ≤ 7230 := by
  rw [numberedAdmin, Fits, length_savedBytes_numbered]
  omega

theorem numberedAdmin_loads_iff (S : Serde) (hn : n + 1 < 2 ^ 32) :
    (numberedAdmin (n + 1)).Loads S ↔ n ≤ 7230 :=
  (load_saved_iff (numbered_file_valid hn)).trans numberedAdmin_fits_iff

/-- `add` takes the file with `n` users to the one with `n + 1`. -/
theorem numberedAdmin_step (S : Serde) (hn : n + 1 < 2 ^ 32) (h : (numberedAdmin n).Loads S) :
    (numberedAdmin n).step S (.add (numbered n).label none (BitVec.ofNat 256 n), true) =
      some (numberedAdmin (n + 1)) := by
  have hsecret : (BitVec.ofNat 256 n).toNat = n := by
    rw [BitVec.toNat_ofNat, Nat.mod_eq_of_lt]
    have h32 : (2 : Nat) ^ 32 ≤ 2 ^ 256 := by decide
    omega
  have happly : Mutation.apply ((List.range n).map numbered)
      (.add (numbered n).label none (BitVec.ofNat 256 n)) =
        .ok ((List.range (n + 1)).map numbered) := by
    simp only [Mutation.apply, hsecret, List.range_succ, List.map_append, List.map_cons,
      List.map_nil, numbered]
  have hvalid := (validateUsers_iff _).mpr (numbered_file_valid hn)
  have hload := loadForMutation_of_load h (.add (numbered n).label none (BitVec.ofNat 256 n))
  have hmutate : mutate S true (numberedAdmin n).disk
      (.add (numbered n).label none (BitVec.ofNat 256 n)) =
        ((numberedAdmin (n + 1)).disk, .ok ()) := by
    have hlocked : (numberedAdmin n).disk.locked = false := rfl
    rw [mutate, hlocked, if_neg Bool.false_ne_true, hload]
    simp only [numberedAdmin, happly, save, hvalid, if_true]
  rw [Admin.step]
  simp only [hmutate]
  rw [show (numberedAdmin n).users = (List.range n).map numbered from rfl, happly]
  rfl

/-- **The 7232nd `add` reports success, and its file does not load**, whatever the parser. -/
theorem add_makes_unloadable : Nonempty Serde ∧ ∀ S : Serde,
    (numberedAdmin 7231).Loads S ∧
    (numberedAdmin 7231).step S (.add (numbered 7231).label none (BitVec.ofNat 256 7231), true) =
      some (numberedAdmin 7232) ∧
    loadUsers S.fromSlice (numberedAdmin 7232).disk.file = .error "users file exceeds 1 MiB" := by
  refine ⟨inferInstance, fun S => ?_⟩
  have hloads := (numberedAdmin_loads_iff S (n := 7230) (by decide)).mpr (by decide)
  refine ⟨hloads, numberedAdmin_step S (by decide) hloads, ?_⟩
  have hlen := length_savedBytes_numbered 7231
  show loadUsers S.fromSlice (some _) = _
  unfold loadUsers
  exact if_pos (by rw [hlen]; decide)

/-- The 7231st `add` reports success, and its file loads. -/
theorem mutation_loads_iff_small : ∃ S : Serde, (numberedAdmin 7230).Loads S ∧
    (numberedAdmin 7230).step S (.add (numbered 7230).label none (BitVec.ofNat 256 7230), true) =
      some (numberedAdmin 7231) ∧ (numberedAdmin 7231).Loads S := by
  obtain ⟨S⟩ := (inferInstance : Nonempty Serde)
  have hloads := (numberedAdmin_loads_iff S (n := 7229) (by decide)).mpr (by decide)
  have hstep := numberedAdmin_step S (by decide) hloads
  refine ⟨S, hloads, hstep, ((mutation_loads_iff S).1 _ _ _ hloads hstep).mpr fun users hu => ?_⟩
  rw [← Except.ok.inj ((Admin.step_cases hloads hstep).1.symm.trans hu)]
  exact numberedAdmin_fits_iff.mpr (by decide)

end BibaVpn.Server
