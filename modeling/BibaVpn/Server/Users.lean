/-
# Users and their sessions

`users.rs`: the users file, what is accepted of it, and the registry of live sessions.  The file is
read again for every connection, outside the lock of the registry, so a call of `acquire` is two
steps: it reads the file and chooses its user, and later it takes the lock.  In between the file may
change and other calls may come and go.

* §1 is the file and its validation, §2 the choice of a user;
* §3 is the registry: the map `active` behind its lock, and the sessions that are alive;
* §4: the map counts the sessions, exactly, and a limit is never exceeded.  A refused call inserts
  the default count 0 before it checks the limit.  That leaves no trace, because a limit in an
  accepted file is positive: whoever is refused has sessions, and so has an entry.

Counts are naturals: a `usize` would overflow only after `2 ^ 64` sessions at once.
-/
import Mathlib.Data.List.Perm.Basic
import BibaVpn.Lib.Lts
import BibaVpn.Lib.Table
import BibaVpn.Lib.Text

namespace BibaVpn.Server

open Machine Lts

/-! ## 1. The users file -/

/-- `User`. -/
structure User where
  label : Text
  token : Text
  enabled : Bool
  maxConcurrent : Option UInt64
  deriving DecidableEq, Repr

/-- `UsersFile`. -/
structure UsersFile where
  users : List User
  deriving DecidableEq, Repr

/-- `is_token_denylisted`. -/
def isTokenDenylisted (token : Text) : Bool :=
  let t := Text.trim token
  t.isEmpty || ["change-me".toList, "changeme".toList, "test".toList].contains
    (Text.toAsciiLowercase t)

/-- `validate_resolved_token`. -/
def validateResolvedToken (token : Text) : Except String Unit :=
  let t := Text.trim token
  if t.isEmpty then .error "token is required"
  else if isTokenDenylisted t then
    .error "token must not be a well-known placeholder (denylisted: change-me, changeme, test)"
  else .ok ()

/-- The loop of `validate_users`, with the labels and tokens seen so far. -/
def validateLoop (labels tokens : List Text) : List User → Except String Unit
  | [] => .ok ()
  | u :: us =>
    if (Text.trim u.label).isEmpty ∨ Text.len u.label > 128 ∨ u.label.any Text.isControl ∨
        u.label ≠ Text.trim u.label ∨ u.label ∈ labels then
      .error "empty or duplicate user label"
    else
      match validateResolvedToken u.token with
      | .error e => .error e
      | .ok () =>
        if u.token ≠ Text.trim u.token ∨ u.token ∈ tokens then
          .error "invalid or duplicate user token"
        else if u.maxConcurrent = some 0 then .error "max_concurrent must be positive"
        else validateLoop (u.label :: labels) (u.token :: tokens) us

/-- `validate_users`. -/
def validateUsers (file : UsersFile) : Except String Unit := validateLoop [] [] file.users

/-- `load_users`: `data` is what `fs::read` returns, and `fromSlice` what `serde_json` makes of
it. -/
def loadUsers (fromSlice : Bytes → Option UsersFile) (data : Option Bytes) :
    Except String UsersFile :=
  match data with
  | none => .error "read users file"
  | some data =>
    if data.length > 1024 * 1024 then .error "users file exceeds 1 MiB"
    else match fromSlice data with
      | none => .error "parse users file"
      | some file =>
        match validateUsers file with
        | .error e => .error e
        | .ok () => .ok file

/-- What `validate_users` asks of one user. -/
structure User.Valid (u : User) : Prop where
  label : (Text.trim u.label).isEmpty = false
  label_len : Text.len u.label ≤ 128
  label_control : u.label.any Text.isControl = false
  label_trim : u.label = Text.trim u.label
  token : validateResolvedToken u.token = .ok ()
  token_trim : u.token = Text.trim u.token
  limit : u.maxConcurrent ≠ some 0

/-- **What `validate_users` accepts.** -/
structure UsersFile.Valid (file : UsersFile) : Prop where
  users : ∀ u ∈ file.users, u.Valid
  labels : (file.users.map User.label).Nodup
  tokens : (file.users.map User.token).Nodup

theorem Except.eq_error_of_ne_ok {ε : Type} {x : Except ε Unit} (h : x ≠ .ok ()) :
    ∃ e, x = .error e := by
  cases x with
  | error e => exact ⟨e, rfl⟩
  | ok u => exact absurd rfl h

/-- The check of one user, and then of the rest. -/
theorem validateLoop_cons (u : User) (us : List User) (labels tokens : List Text) :
    validateLoop labels tokens (u :: us) = .ok () ↔
      u.Valid ∧ u.label ∉ labels ∧ u.token ∉ tokens ∧
        validateLoop (u.label :: labels) (u.token :: tokens) us = .ok () := by
  rw [validateLoop]
  split
  · rename_i hl
    simp only [reduceCtorEq, false_iff]
    rintro ⟨hv, hnew, -⟩
    rcases hl with h | h | h | h | h
    · rw [hv.label] at h
      cases h
    · exact absurd hv.label_len (by omega)
    · rw [hv.label_control] at h
      cases h
    · exact h hv.label_trim
    · exact hnew h
  · rename_i hl
    simp only [not_or, Bool.not_eq_true, not_lt, ne_eq, not_not] at hl
    obtain ⟨h1, h2, h3, h4, h5⟩ := hl
    split
    · rename_i e he
      simp only [reduceCtorEq, false_iff]
      rintro ⟨hv, -⟩
      rw [hv.token] at he
      cases he
    · rename_i he
      split
      · rename_i ht
        simp only [reduceCtorEq, false_iff]
        rintro ⟨hv, -, hnew, -⟩
        exact ht.elim (fun h => h hv.token_trim) hnew
      · rename_i ht
        simp only [not_or, ne_eq, not_not] at ht
        split
        · rename_i hm
          simp only [reduceCtorEq, false_iff]
          rintro ⟨hv, -⟩
          exact hv.limit hm
        · rename_i hm
          exact ⟨fun h => ⟨⟨h1, by omega, h3, h4, he, ht.1, hm⟩, h5, ht.2, h⟩, fun h => h.2.2.2⟩

theorem validateLoop_iff (us : List User) (labels tokens : List Text) :
    validateLoop labels tokens us = .ok () ↔ (∀ u ∈ us, u.Valid) ∧
      ((us.map User.label).Nodup ∧ ∀ u ∈ us, u.label ∉ labels) ∧
      (us.map User.token).Nodup ∧ ∀ u ∈ us, u.token ∉ tokens := by
  induction us generalizing labels tokens with
  | nil => simp [validateLoop]
  | cons u us ih =>
    rw [validateLoop_cons, ih]
    simp only [List.mem_cons, List.map_cons, List.nodup_cons, List.mem_map, forall_eq_or_imp,
      not_or, not_exists, not_and]
    constructor
    · rintro ⟨hv, hl, ht, hvs, ⟨hln, hls⟩, htn, hts⟩
      exact ⟨⟨hv, hvs⟩, ⟨⟨fun x hx => (hls x hx).1, hln⟩, hl, fun x hx => (hls x hx).2⟩,
        ⟨fun x hx => (hts x hx).1, htn⟩, ht, fun x hx => (hts x hx).2⟩
    · rintro ⟨⟨hv, hvs⟩, ⟨⟨hle, hln⟩, hl, hls⟩, ⟨hte, htn⟩, ht, hts⟩
      exact ⟨hv, hl, ht, hvs, ⟨hln, fun x hx => ⟨hle x hx, hls x hx⟩⟩, htn,
        fun x hx => ⟨hte x hx, hts x hx⟩⟩

/-- `validate_users` accepts exactly the valid files. -/
theorem validateUsers_iff (file : UsersFile) : validateUsers file = .ok () ↔ file.Valid := by
  rw [validateUsers, validateLoop_iff]
  constructor
  · rintro ⟨hu, ⟨hl, -⟩, ht, -⟩
    exact ⟨hu, hl, ht⟩
  · rintro ⟨hu, hl, ht⟩
    exact ⟨hu, ⟨hl, by simp⟩, ht, by simp⟩

variable {file : UsersFile} {token : Text} {u : User}

/-- **What `load_users` accepts**: a file of at most 1 MiB that parses to a valid list. -/
theorem loadUsers_iff {fromSlice : Bytes → Option UsersFile} {data : Option Bytes} :
    loadUsers fromSlice data = .ok file ↔
      ∃ bytes, data = some bytes ∧ bytes.length ≤ 1024 * 1024 ∧ fromSlice bytes = some file ∧
        file.Valid := by
  unfold loadUsers
  cases data with
  | none => simp
  | some bytes =>
    simp only [Option.some.injEq, exists_eq_left']
    split
    · simp
      omega
    · rename_i hlen
      cases hp : fromSlice bytes with
      | none => simp
      | some f =>
        dsimp only
        by_cases hval : f.Valid
        · rw [(validateUsers_iff f).mpr hval]
          simp only [Except.ok.injEq, Option.some.injEq]
          constructor
          · rintro rfl
            exact ⟨by omega, rfl, hval⟩
          · rintro ⟨-, h, -⟩
            exact h
        · obtain ⟨e, he⟩ := Except.eq_error_of_ne_ok (mt (validateUsers_iff f).mp hval)
          rw [he]
          simp only [reduceCtorEq, Option.some.injEq, false_iff, not_and]
          rintro - rfl
          exact hval

/-! ## 2. The choice of a user -/

/-- What the registry takes from elsewhere: the parser, and the hash of a token. -/
structure Outside where
  fromSlice : Bytes → Option UsersFile
  blake3 : Bytes → Bytes

/-- `secret_eq`. -/
def secretEq (got expected : Bytes) : Bool := got.length == expected.length && got == expected

theorem eq_of_secretEq {a b : Bytes} (h : secretEq a b = true) : a = b := by
  simp only [secretEq, Bool.and_eq_true, beq_iff_eq] at h
  exact h.2

/-- The user of `acquire`: the last entry whose token has the hash of the candidate, if enabled. -/
def Outside.choose (o : Outside) (file : UsersFile) (token : Text) : Option User :=
  (file.users.foldl (fun user entry =>
    if secretEq (o.blake3 (Text.toUtf8 token)) (o.blake3 (Text.toUtf8 entry.token)) then some entry
    else user) none).filter User.enabled

/-- `find_token`, given the file. -/
def findToken (file : UsersFile) (matching : Text → Bool) : Option Text :=
  (file.users.filter User.enabled).foldl
    (fun matched user => if matching user.token then some user.token else matched) none

/-- A loop that keeps the last match returns what it started with, or a match. -/
theorem foldl_last {α β : Type} (p : α → Bool) (f : α → β) (l : List α) (start : Option β) :
    l.foldl (fun found x => if p x then some (f x) else found) start = start ∨
      ∃ x ∈ l, p x = true ∧
        l.foldl (fun found x => if p x then some (f x) else found) start = some (f x) := by
  induction l generalizing start with
  | nil => exact Or.inl rfl
  | cons x l ih =>
    rw [List.foldl_cons]
    rcases ih (if p x then some (f x) else start) with heq | ⟨y, hy, hp, heq⟩
    · rw [heq]
      split
      · rename_i hp
        exact Or.inr ⟨x, List.mem_cons_self, hp, rfl⟩
      · exact Or.inl rfl
    · exact Or.inr ⟨y, List.mem_cons_of_mem x hy, hp, heq⟩

/-- **Who is chosen is an enabled user of the file.** -/
theorem Outside.choose_some {o : Outside} (h : o.choose file token = some u) :
    u ∈ file.users ∧ u.enabled = true := by
  obtain ⟨hfold, hen⟩ := Option.filter_eq_some_iff.mp h
  refine ⟨?_, hen⟩
  rcases foldl_last (fun entry : User => secretEq (o.blake3 (Text.toUtf8 token))
    (o.blake3 (Text.toUtf8 entry.token))) id file.users none with heq | ⟨x, hx, -, heq⟩
  · cases heq.symm.trans hfold
  · cases heq.symm.trans hfold
    exact hx

/-- Who is chosen has a token with the hash of the candidate. -/
theorem Outside.choose_hash {o : Outside} (h : o.choose file token = some u) :
    o.blake3 (Text.toUtf8 token) = o.blake3 (Text.toUtf8 u.token) := by
  obtain ⟨hfold, -⟩ := Option.filter_eq_some_iff.mp h
  rcases foldl_last (fun entry : User => secretEq (o.blake3 (Text.toUtf8 token))
    (o.blake3 (Text.toUtf8 entry.token))) id file.users none with heq | ⟨x, -, hx, heq⟩
  · cases heq.symm.trans hfold
  · cases heq.symm.trans hfold
    exact eq_of_secretEq hx

/-- **The token that is found is that of an enabled user, and it matches.** -/
theorem findToken_some {matching : Text → Bool} (h : findToken file matching = some token) :
    ∃ u ∈ file.users, u.enabled = true ∧ matching u.token = true ∧ u.token = token := by
  rcases foldl_last (fun u : User => matching u.token) User.token
    (file.users.filter User.enabled) none with heq | ⟨u, hu, hm, heq⟩
  · cases heq.symm.trans h
  · cases heq.symm.trans h
    obtain ⟨hmem, hen⟩ := List.mem_filter.mp hu
    exact ⟨u, hmem, hen, hm, rfl⟩

/-! ## 3. The registry -/

/-- `UserSession`; `replayPending` while the REALITY handshake that acquired it has not passed the
replay check. -/
structure UserSession where
  label : Text
  replayPending : Bool
  deriving DecidableEq, Repr

/-- A call of `acquire`, from a REALITY handshake or not. -/
inductive Call
  | called (token : Text) (reality : Bool)
  /-- it has read `file` and chosen its user, and has not taken the lock -/
  | chosen (file : UsersFile) (user : User) (reality : Bool)
  deriving DecidableEq, Repr

/-- `UserRegistry`, with the content of the users file, the calls under way and the sessions
alive. -/
structure UserRegistry where
  data : Option Bytes
  active : Table Text Nat
  calls : List Call
  sessions : List UserSession

/-- `UserRegistry::new`, for a file that it could load. -/
def UserRegistry.new (data : Bytes) : UserRegistry := ⟨some data, .empty, [], []⟩

/-- The part of `acquire` under the lock. -/
def lockedAcquire (active : Table Text Nat) (user : User) : Table Text Nat × Except String Unit :=
  -- `entry(..).or_default()`
  let active := if (active.get user.label).isSome then active else active.insert user.label 0
  let count := (active.get user.label).getD 0
  if user.maxConcurrent.any fun limit => count ≥ limit.toNat then
    (active, .error "user session limit reached")
  else (active.insert user.label (count + 1), .ok ())

/-- `Drop for UserSession`: `none` if the decrement underflows. -/
def dropSession (active : Table Text Nat) (label : Text) : Option (Table Text Nat) :=
  match active.get label with
  | none => some active
  | some count => (checkedSub count 1).map fun n =>
      if n = 0 then active.erase label else active.insert label n

inductive RegistryAction
  /-- somebody replaces, damages or removes the users file -/
  | write (data : Option Bytes)
  /-- `acquire` is called with a token that the client sent -/
  | call (token : Text)
  /-- a REALITY handshake looks for the token of a MAC, and calls `acquire` with it -/
  | realityCall (matching : Text → Bool)
  /-- the `k`-th call reads the file -/
  | load (k : Nat)
  /-- the `k`-th call takes the lock -/
  | enter (k : Nat)
  /-- the replay check of the handshake that holds the `k`-th session -/
  | replay (k : Nat) (fresh : Bool)
  | drop (k : Nat)

/-- The `k`-th session is dropped. -/
def UserRegistry.dropAt (s : UserRegistry) (k : Nat) (x : UserSession) : Option UserRegistry :=
  (dropSession s.active x.label).map fun active =>
    { s with active := active, sessions := s.sessions.eraseIdx k }

def UserRegistry.step (o : Outside) (s : UserRegistry) : RegistryAction → Option UserRegistry
  | .write data => some { s with data := data }
  | .call token => some { s with calls := s.calls ++ [.called token false] }
  | .realityCall matching =>
    match loadUsers o.fromSlice s.data with
    | .error _ => some s
    | .ok file =>
      match findToken file matching with
      | none => some s
      | some token => some { s with calls := s.calls ++ [.called token true] }
  | .load k =>
    match s.calls[k]? with
    | some (.called token reality) =>
      match loadUsers o.fromSlice s.data with
      | .error _ => some { s with calls := s.calls.eraseIdx k }
      | .ok file =>
        match o.choose file token with
        | none => some { s with calls := s.calls.eraseIdx k }
        | some user => some { s with calls := s.calls.set k (.chosen file user reality) }
    | _ => none
  | .enter k =>
    match s.calls[k]? with
    | some (.chosen _ user reality) =>
      match lockedAcquire s.active user with
      | (active, .error _) => some { s with active := active, calls := s.calls.eraseIdx k }
      | (active, .ok ()) => some { s with
          active := active
          calls := s.calls.eraseIdx k
          sessions := s.sessions ++ [⟨user.label, reality⟩] }
    | _ => none
  | .replay k fresh =>
    match s.sessions[k]? with
    | some x =>
      if x.replayPending then
        if fresh then some { s with sessions := s.sessions.set k { x with replayPending := false } }
        else s.dropAt k x
      else none
    | none => none
  | .drop k =>
    match s.sessions[k]? with
    | some x => s.dropAt k x
    | none => none

/-! ## 4. The map counts the sessions -/

/-- How many of the sessions have this label. -/
def liveIn (sessions : List UserSession) (label : Text) : Nat :=
  sessions.countP fun x => x.label = label

/-- The sessions of a label that are alive. -/
def UserRegistry.live (s : UserRegistry) (label : Text) : Nat := liveIn s.sessions label

/-- `active` has for each label the number of its sessions, and no entry for none. -/
def Counts (active : Table Text Nat) (live : Text → Nat) : Prop :=
  ∀ label, active.get label = if live label = 0 then none else some (live label)

/-- **The lock section, when `active` counts the sessions.**  It counts one more, of a label that
was below its limit; or it changes nothing. -/
theorem lockedAcquire_cases {active : Table Text Nat} {live : Text → Nat}
    (hc : Counts active live) (hl : u.maxConcurrent ≠ some 0) :
    (∃ e, lockedAcquire active u = (active, .error e)) ∨
    ((∀ limit, u.maxConcurrent = some limit → live u.label < limit.toNat) ∧
      ∃ active', lockedAcquire active u = (active', .ok ()) ∧
        ∀ label, active'.get label =
          if label = u.label then some (live u.label + 1) else active.get label) := by
  have hget := hc u.label
  unfold lockedAcquire
  by_cases h0 : live u.label = 0
  · -- a first session: the default entry is there for the check, which a positive limit passes
    rw [if_pos h0] at hget
    have hpos : ∀ limit, u.maxConcurrent = some limit → 0 < limit.toNat := fun limit hm =>
      Nat.pos_of_ne_zero fun h => hl (hm.trans (congrArg some (UInt64.toNat_inj.mp h)))
    have hroom : (u.maxConcurrent.any fun limit => decide (0 ≥ limit.toNat)) = false := by
      cases hm : u.maxConcurrent with
      | none => rfl
      | some limit =>
        have hpos := hpos limit hm
        simp
        omega
    simp only [hget, Option.isSome_none, Bool.false_eq_true, if_false, Table.get_insert, if_true,
      Option.getD_some, hroom]
    refine Or.inr ⟨fun limit hm => ?_, _, rfl, fun label => ?_⟩
    · rw [h0]
      exact hpos limit hm
    · rw [Table.get_insert, Table.get_insert]
      by_cases h : label = u.label
      · simp [h, h0]
      · simp [h]
  · rw [if_neg h0] at hget
    simp only [hget, Option.isSome_some, if_true, Option.getD_some]
    split
    · exact Or.inl ⟨_, rfl⟩
    · rename_i hroom
      refine Or.inr ⟨fun limit hm => ?_, _, rfl, fun label => Table.get_insert _ _ _ _⟩
      rw [hm] at hroom
      simpa using hroom

/-- **The drop of a session that is counted does not underflow**, and it counts one less. -/
theorem dropSession_counts {active : Table Text Nat} {live live' : Text → Nat} {label : Text}
    (hc : Counts active live) (hlive : ∀ l, live l = live' l + if label = l then 1 else 0) :
    ∃ active', dropSession active label = some active' ∧ Counts active' live' := by
  have hpos : live label = live' label + 1 := by rw [hlive label, if_pos rfl]
  have hget : active.get label = some (live' label + 1) := by
    rw [hc label, if_neg (by omega), hpos]
  have hsame : ∀ l, l ≠ label → live' l = live l := fun l hl => by
    rw [hlive l, if_neg (Ne.symm hl), Nat.add_zero]
  have hsub : checkedSub (live' label + 1) 1 = some (live' label) :=
    checkedSub_of_le (Nat.le_add_left 1 _)
  unfold dropSession
  simp only [hget, hsub, Option.map_some]
  refine ⟨_, rfl, fun l => ?_⟩
  by_cases hl : l = label
  · subst hl
    split
    · rw [Table.get_erase, if_pos rfl]
    · rw [Table.get_insert, if_pos rfl]
  · rw [hsame l hl, ← hc l]
    split
    · rw [Table.get_erase, if_neg hl]
    · rw [Table.get_insert, if_neg hl]

/-- **The invariant.**  `active` counts the sessions, and a call that has chosen its user chose an
enabled one of an accepted file. -/
structure UserRegistry.Inv (s : UserRegistry) : Prop where
  counts : Counts s.active s.live
  chosen : ∀ file u reality, .chosen file u reality ∈ s.calls →
    file.Valid ∧ u ∈ file.users ∧ u.enabled = true

theorem UserRegistry.Inv.new (data : Bytes) : (UserRegistry.new data).Inv where
  counts _ := rfl
  chosen _ _ _ h := by cases h

section Step

variable {o : Outside} {s t : UserRegistry} {k : Nat}

/-- One session less. -/
theorem liveIn_eraseIdx {xs : List UserSession} {x : UserSession} (hk : xs[k]? = some x)
    (label : Text) :
    liveIn xs label = liveIn (xs.eraseIdx k) label + if x.label = label then 1 else 0 := by
  obtain ⟨hlt, hx⟩ := List.getElem?_eq_some_iff.mp hk
  have hperm := (List.getElem_cons_eraseIdx_perm hlt).countP_eq fun y => decide (y.label = label)
  rw [List.countP_cons, hx] at hperm
  rw [liveIn, ← hperm]
  simp only [decide_eq_true_eq, liveIn]

theorem liveIn_append (xs : List UserSession) (x : UserSession) (label : Text) :
    liveIn (xs ++ [x]) label = liveIn xs label + if x.label = label then 1 else 0 := by
  simp only [liveIn, List.countP_append, List.countP_singleton, decide_eq_true_eq]

/-- A session that stays under its label is counted as before. -/
theorem liveIn_set {xs : List UserSession} {x y : UserSession} (hk : xs[k]? = some x)
    (hy : y.label = x.label) (label : Text) : liveIn (xs.set k y) label = liveIn xs label := by
  have hy' : (xs.set k y)[k]? = some y := by
    obtain ⟨hlt, -⟩ := List.getElem?_eq_some_iff.mp hk
    simp [hlt]
  rw [liveIn_eraseIdx hk, liveIn_eraseIdx hy', List.eraseIdx_set_eq, hy]

theorem UserRegistry.Inv.dropAt {x : UserSession} (h : s.Inv) (hk : s.sessions[k]? = some x) :
    ∃ t, s.dropAt k x = some t ∧ t.Inv := by
  obtain ⟨active, hd, hc⟩ := dropSession_counts h.counts (liveIn_eraseIdx hk)
  refine ⟨{ s with active := active, sessions := s.sessions.eraseIdx k }, ?_, hc, h.chosen⟩
  rw [UserRegistry.dropAt, hd]
  rfl

/-- **The lock section of a call.**  It is refused and changes nothing, or the label is below its
limit and there is one session more. -/
theorem UserRegistry.Inv.enter (h : s.Inv) (hs : s.step o (.enter k) = some t) :
    ∃ file u reality, s.calls[k]? = some (.chosen file u reality) ∧
      ((u ∈ file.users ∧ u.enabled = true) ∧ t = { s with calls := s.calls.eraseIdx k } ∨
      ((u ∈ file.users ∧ u.enabled = true) ∧ ∃ active',
        (∀ limit, u.maxConcurrent = some limit → s.live u.label < limit.toNat) ∧
        (∀ label, active'.get label =
          if label = u.label then some (s.live u.label + 1) else s.active.get label) ∧
        t = { s with
          active := active'
          calls := s.calls.eraseIdx k
          sessions := s.sessions ++ [⟨u.label, reality⟩] })) := by
  simp only [UserRegistry.step] at hs
  split at hs
  · rename_i file u reality hk
    obtain ⟨hvalid, hmem, hen⟩ := h.chosen file u reality (List.mem_of_getElem? hk)
    refine ⟨file, u, reality, hk, ?_⟩
    rcases lockedAcquire_cases h.counts (hvalid.users u hmem).limit with
      ⟨e, heq⟩ | ⟨hroom, active', heq, hget⟩
    · rw [heq] at hs
      cases hs
      exact Or.inl ⟨⟨hmem, hen⟩, rfl⟩
    · rw [heq] at hs
      cases hs
      exact Or.inr ⟨⟨hmem, hen⟩, active', hroom, hget, rfl⟩
  · cases hs

theorem UserRegistry.Inv.step {a : RegistryAction} (h : s.Inv) (hs : s.step o a = some t) :
    t.Inv := by
  have hcalls : ∀ {calls : List Call}, (∀ c ∈ calls, c ∈ s.calls) → ∀ file u reality,
      .chosen file u reality ∈ calls → file.Valid ∧ u ∈ file.users ∧ u.enabled = true :=
    fun hsub file u reality hm => h.chosen file u reality (hsub _ hm)
  have hcalled : ∀ token how file u reality,
      .chosen file u reality ∈ s.calls ++ [.called token how] →
      file.Valid ∧ u ∈ file.users ∧ u.enabled = true := by
    intro token how file u reality hm
    rcases List.mem_append.mp hm with hm | hm
    · exact h.chosen file u reality hm
    · cases List.mem_singleton.mp hm
  have hstep := hs
  revert hs
  fun_cases UserRegistry.step o s a <;> intro hs <;> try cases hs
  case case1 => exact ⟨h.counts, h.chosen⟩
  case case2 | case5 => exact ⟨h.counts, hcalled _ _⟩
  case case3 | case4 => exact h
  case case6 | case7 => exact ⟨h.counts, hcalls fun c hc => List.mem_of_mem_eraseIdx hc⟩
  case case8 file hload user hchoose =>
    refine ⟨h.counts, fun file' u' reality' hm => ?_⟩
    rcases List.mem_or_eq_of_mem_set hm with hm | hm
    · exact h.chosen file' u' reality' hm
    · cases hm
      obtain ⟨-, -, -, -, hvalid⟩ := loadUsers_iff.mp hload
      exact ⟨hvalid, Outside.choose_some hchoose⟩
  case case10 | case11 =>
    obtain ⟨file, u, reality, hk, ⟨-, heq⟩ | ⟨-, active', -, hget, heq⟩⟩ := h.enter hstep
    · rw [heq]
      exact ⟨h.counts, hcalls fun c hc => List.mem_of_mem_eraseIdx hc⟩
    · rw [heq]
      refine ⟨fun label => ?_, hcalls fun c hc => List.mem_of_mem_eraseIdx hc⟩
      have hlive : liveIn (s.sessions ++ [⟨u.label, reality⟩]) label =
          s.live label + if u.label = label then 1 else 0 := liveIn_append _ _ _
      rw [UserRegistry.live, hlive, hget]
      by_cases hl : label = u.label
      · subst hl
        rw [if_pos rfl, if_pos rfl, if_neg (Nat.succ_ne_zero _)]
      · rw [if_neg hl, if_neg (Ne.symm hl)]
        exact h.counts label
  case case13 x hk _ =>
    have hlive : liveIn (s.sessions.set _ { x with replayPending := false }) = s.live :=
      funext (liveIn_set hk rfl)
    refine ⟨fun label => ?_, h.chosen⟩
    rw [UserRegistry.live, hlive]
    exact h.counts label
  case case14 hk _ _ | case17 hk =>
    obtain ⟨t', ht', hI⟩ := h.dropAt hk
    cases hs.symm.trans ht'
    exact hI

end Step

/-- **The accounting is right.**  `counts` and `positive` are the map between calls; `dropped`: a
drop never underflows; `loaded` and `entered` are the two halves of `acquire`. -/
structure UserRegistry.Sound (o : Outside) (s : UserRegistry) : Prop where
  counts : ∀ label, (s.active.get label).getD 0 = s.live label
  positive : ∀ label n, s.active.get label = some n → 0 < n
  dropped : ∀ x ∈ s.sessions, (dropSession s.active x.label).isSome = true
  loaded : ∀ k t, s.step o (.load k) = some t → t.active = s.active ∧ t.sessions = s.sessions ∧
    (t.calls = s.calls.eraseIdx k ∨ ∃ token reality file u,
      s.calls[k]? = some (.called token reality) ∧ loadUsers o.fromSlice s.data = .ok file ∧
      o.choose file token = some u ∧ t.calls = s.calls.set k (.chosen file u reality))
  entered : ∀ k t, s.step o (.enter k) = some t → ∃ file u reality,
    s.calls[k]? = some (.chosen file u reality) ∧ u ∈ file.users ∧ u.enabled = true ∧
    (t.active = s.active ∧ t.sessions = s.sessions ∨
      (∀ limit, u.maxConcurrent = some limit → s.live u.label < limit.toNat) ∧
      t.sessions = s.sessions ++ [⟨u.label, reality⟩])

/-- **Session accounting**, for every parser and hash, every interleaving of calls, drops and
REALITY handshakes, and whatever happens to the file. -/
theorem session_accounting {o : Outside} {data : Bytes} {s : UserRegistry}
    (h : Reachable (UserRegistry.step o) (UserRegistry.new data) s) : s.Sound o := by
  have hI : s.Inv := h.invariant (.new data) fun _ _ _ hI hs => hI.step hs
  exact {
    counts := fun label => by
      rw [hI.counts label]
      split
      · rename_i h0
        exact h0.symm
      · rfl
    positive := fun label n hn => by
      rw [hI.counts label] at hn
      split at hn
      · cases hn
      · rename_i h0
        cases hn
        exact Nat.pos_of_ne_zero h0
    dropped := fun x hx => by
      obtain ⟨k, hk⟩ := List.mem_iff_getElem?.mp hx
      obtain ⟨active, hd, -⟩ := dropSession_counts hI.counts (liveIn_eraseIdx hk)
      rw [hd]
      rfl
    loaded := fun k t hs => by
      simp only [UserRegistry.step] at hs
      split at hs
      · rename_i token reality hk
        split at hs
        · cases hs
          exact ⟨rfl, rfl, Or.inl rfl⟩
        · rename_i file hload
          split at hs
          · cases hs
            exact ⟨rfl, rfl, Or.inl rfl⟩
          · rename_i u hchoose
            cases hs
            exact ⟨rfl, rfl, Or.inr ⟨token, reality, file, u, hk, hload, hchoose, rfl⟩⟩
      · cases hs
    entered := fun k t hs => by
      obtain ⟨file, u, reality, hk, ⟨hu, rfl⟩ | ⟨hu, active', hroom, -, rfl⟩⟩ := hI.enter hs
      · exact ⟨file, u, reality, hk, hu.1, hu.2, Or.inl ⟨rfl, rfl⟩⟩
      · exact ⟨file, u, reality, hk, hu.1, hu.2, Or.inr ⟨hroom, rfl⟩⟩ }

/-- One user, with one session at a time. -/
def aliceFile : UsersFile := ⟨[⟨"alice".toList, "alice-secret".toList, true, some 1⟩]⟩

/-- A REALITY handshake and a second call race for the one session; the handshake gets it and fails
the replay check; a third call comes after the file is damaged. -/
def raceForOne : List RegistryAction :=
  [.realityCall fun _ => true, .call "alice-secret".toList, .load 0, .load 1, .enter 0,
    .enter 0, .replay 0 false, .call "alice-secret".toList, .write none, .load 0]

theorem session_accounting_race : let o : Outside := ⟨fun _ => some aliceFile, id⟩
    (run (UserRegistry.step o) (UserRegistry.new []) (raceForOne.take 6)).map
        (fun s => (s.active.entries, s.sessions)) =
      some ([("alice".toList, 1)], [⟨"alice".toList, true⟩]) ∧
    (run (UserRegistry.step o) (UserRegistry.new []) raceForOne).map (fun s => s.active.entries) =
      some [] ∧
    ∀ s, run (UserRegistry.step o) (UserRegistry.new []) raceForOne = some s → s.Sound o :=
  ⟨by decide, by decide, fun _ hs => session_accounting (Reachable.of_run hs)⟩

end BibaVpn.Server
