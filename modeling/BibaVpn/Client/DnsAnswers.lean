/-
# DNS answers: what is read, and from where

`parse_dns_answers` (`domain_route.rs`) walks a message that anybody may have sent.  Its names are
compressed: a pointer continues the name anywhere else in the message, also forward, also in a
circle.

* §1 is the code on its slices: it indexes where it has checked, and the loop of `read_name` comes
  to an end within 161 turns, so no message makes it panic or spin (`Indexed.parseDnsAnswers_eq`);
* §2 is the decoding of RFC 1035 as a relation between a message and what it says;
* §3 compares the two: for a well-formed response the result is what the relation gives, so it does
  not depend on how the names are compressed.
-/
import BibaVpn.Client.Dns
import BibaVpn.Lib.Slice

namespace BibaVpn.Client

open Machine Wire

variable {P : Platform} {msg : Bytes} {pos behind jumps : Nat} {ls : List Bytes}

/-! ## 1. The code on its slices -/

namespace Indexed

open Slice

/-- The loop of `read_name` with its indexing; `none` where the given turns were not enough. -/
def readNameLoop (P : Platform) (msg : Bytes) :
    Nat → Nat → Nat → Option Nat → List Text → Option (Checked (Option (Text × Nat)))
  | 0, _, _, _, _ => none
  | turns + 1, pos, jumps, afterPtr, labels =>
    match msg[pos]? with
    | none => some (.ok none)
    | some len =>
      if len &&& 0xC0 = 0xC0 then
        match msg[pos + 1]? with
        | none => some (.ok none)
        | some b2 =>
          let ptr := (len &&& 0x3F).toNat * 256 + b2.toNat
          if jumps + 1 > 32 ∨ ptr ≥ msg.length then some (.ok none)
          else readNameLoop P msg turns ptr (jumps + 1) (some (afterPtr.getD (pos + 2))) labels
      else if len = 0 then some (.ok (some (['.'].intercalate labels, afterPtr.getD (pos + 1))))
      else
        let s := pos + 1
        let e := s + len.toNat
        if e > msg.length then some (.ok none)
        else
          match range msg s e with
          | .error stop => some (.error stop)
          | .ok raw =>
            let label := Text.toAsciiLowercase (P.fromUtf8Lossy raw)
            if labels.length + 1 > 128 then some (.ok none)
            else readNameLoop P msg turns e jumps afterPtr (labels ++ [label])

/-- `read_name`, from the loop that was given enough turns. -/
def readName (P : Platform) (msg : Bytes) (start : Nat) : Checked (Option (Text × Nat)) :=
  (readNameLoop P msg 161 start 0 none []).getD (.error .panics)

/-- `u16::from_be_bytes([msg[i], msg[i + 1]])`. -/
def u16At (msg : Bytes) (i : Nat) : Checked Nat := do
  let a ← index msg i
  let b ← index msg (i + 1)
  return fromBe [a, b]

/-- `u32::from_be_bytes` of four bytes from `i` on. -/
def u32At (msg : Bytes) (i : Nat) : Checked Nat := do
  let a ← index msg i
  let b ← index msg (i + 1)
  let c ← index msg (i + 2)
  let d ← index msg (i + 3)
  return fromBe [a, b, c, d]

/-- The remaining questions are skipped. -/
def skipQuestions (P : Platform) (msg : Bytes) : Nat → Nat → Checked (Option Nat)
  | 0, pos => return some pos
  | n + 1, pos => do
    match ← readName P msg pos with
    | none => return none
    | some (_, np) => if np + 4 > msg.length then return none else skipQuestions P msg n (np + 4)

/-- What one record adds to the answers: `copy_from_slice` wants the length it is given. -/
def addressOf (msg : Bytes) (rtype rdlen pos ttl : Nat) : Checked (List (IpAddr × Nat)) :=
  if rtype = 1 ∧ rdlen = 4 then do
    let b ← range msg pos (pos + 4)
    let b0 ← index b 0
    let b1 ← index b 1
    let b2 ← index b 2
    let b3 ← index b 3
    return [(IpAddr.v4 [b0, b1, b2, b3], ttl)]
  else if rtype = 28 ∧ rdlen = 16 then do
    let b ← range msg pos (pos + 16)
    if b.length = 16 then return [(IpAddr.v6 b, ttl)] else .error .panics
  else return []

/-- The loop over the answers; `out` are the addresses so far. -/
def readAnswers (P : Platform) (msg : Bytes) :
    Nat → Nat → List (IpAddr × Nat) → Checked (Option (List (IpAddr × Nat)))
  | 0, _, out => return some out
  | n + 1, pos, out => do
    match ← readName P msg pos with
    | none => return none
    | some (_, pos) =>
      if pos + 10 > msg.length then return none
      else
        let rtype ← u16At msg pos
        let ttl ← u32At msg (pos + 4)
        let rdlen ← u16At msg (pos + 8)
        let pos := pos + 10
        if pos + rdlen > msg.length then return none
        else
          let found ← addressOf msg rtype rdlen pos ttl
          readAnswers P msg n (pos + rdlen) (out ++ found)

/-- `parse_dns_answers`. -/
def parseDnsAnswers (P : Platform) (msg : Bytes) :
    Checked (Option (Nat × Text × List (IpAddr × Nat))) :=
  if msg.length < 12 then return none
  else do
    let id ← u16At msg 0
    let qdcount ← u16At msg 4
    let ancount ← u16At msg 6
    if qdcount = 0 then return none
    else
      match ← readName P msg 12 with
      | none => return none
      | some (qname, np) =>
        if np + 4 > msg.length then return none
        else
          match ← skipQuestions P msg (qdcount - 1) (np + 4) with
          | none => return none
          | some pos =>
            match ← readAnswers P msg ancount pos [] with
            | none => return none
            | some out => return some (id, qname, out)

/-- **Every turn of `read_name` stays inside the message, and the turns come to an end**: each one
takes a label or a jump, and there are 128 and 32 of them. -/
theorem readNameLoop_eq (P : Platform) (msg : Bytes) :
    ∀ (turns pos jumps : Nat) (afterPtr : Option Nat) (labels : List Text), jumps ≤ 32 →
      labels.length ≤ 128 → (32 - jumps) + (128 - labels.length) < turns →
      readNameLoop P msg turns pos jumps afterPtr labels =
        some (.ok (Client.readNameLoop P msg turns pos jumps afterPtr labels)) := by
  intro turns
  induction turns with
  | zero =>
    intro _ _ _ _ _ _ ht
    exact absurd ht (Nat.not_lt_zero _)
  | succ turns ih =>
    intro pos jumps afterPtr labels hj hl ht
    rw [readNameLoop, Client.readNameLoop]
    cases hpos : msg[pos]? with
    | none => rfl
    | some len =>
      dsimp only
      by_cases hptr : len &&& 0xC0 = 0xC0
      · rw [if_pos hptr, if_pos hptr]
        cases hb2 : msg[pos + 1]? with
        | none => rfl
        | some b2 =>
          dsimp only
          split
          · rfl
          · exact ih _ _ _ _ (by omega) hl (by omega)
      · rw [if_neg hptr, if_neg hptr]
        by_cases hroot : len = 0
        · rw [if_pos hroot, if_pos hroot]
        · rw [if_neg hroot, if_neg hroot]
          by_cases hend : pos + 1 + len.toNat > msg.length
          · rw [if_pos hend, if_pos hend]
          · rw [if_neg hend, if_neg hend, range_of_le (by omega) (by omega)]
            dsimp only
            split
            · rfl
            · refine ih _ _ _ _ hj ?_ ?_ <;> rw [List.length_append, List.length_singleton] <;>
                omega

theorem readName_eq (P : Platform) (msg : Bytes) (start : Nat) :
    readName P msg start = .ok (Client.readName P msg start) := by
  rw [readName, readNameLoop_eq P msg 161 start 0 none [] (by omega) (by simp) (by simp)]
  rfl

theorem u16At_eq {i : Nat} (h : i + 2 ≤ msg.length) : u16At msg i = .ok (Client.u16At msg i) := by
  have hval : Client.u16At msg i = fromBe ((msg.drop i).take 2) := by
    rw [Client.u16At, slice, List.drop_take, Nat.add_sub_cancel_left]
  rw [hval, take_two_drop (by omega), u16At, index_of_lt (by omega : i < msg.length),
    index_of_lt (by omega : i + 1 < msg.length)]
  rfl

theorem u32At_eq {i : Nat} (h : i + 4 ≤ msg.length) :
    u32At msg i = .ok (fromBe (slice msg i (i + 4))) := by
  have hval : slice msg i (i + 4) = [msg[i], msg[i + 1], msg[i + 2], msg[i + 3]] := by
    rw [slice, List.drop_take, Nat.add_sub_cancel_left, List.drop_eq_getElem_cons (by omega),
      List.drop_eq_getElem_cons (by omega), List.drop_eq_getElem_cons (by omega),
      List.drop_eq_getElem_cons (by omega)]
    rfl
  rw [hval, u32At, index_of_lt (by omega : i < msg.length),
    index_of_lt (by omega : i + 1 < msg.length), index_of_lt (by omega : i + 2 < msg.length),
    index_of_lt (by omega : i + 3 < msg.length)]
  rfl

theorem skipQuestions_eq (P : Platform) (msg : Bytes) :
    ∀ n pos, skipQuestions P msg n pos = .ok (Client.skipQuestions P msg n pos) := by
  intro n
  induction n with
  | zero => intro pos; rfl
  | succ n ih =>
    intro pos
    rw [skipQuestions, Client.skipQuestions, readName_eq, ok_bind]
    cases Client.readName P msg pos with
    | none => rfl
    | some r =>
      obtain ⟨name, np⟩ := r
      dsimp only
      by_cases hend : np + 4 > msg.length
      · rw [if_pos hend, if_pos hend]
        rfl
      · rw [if_neg hend, if_neg hend, ih]

end Indexed

/-- The addresses that a record of this type and data adds to the answers. -/
def addressIn (rtype ttl : Nat) (rdata : Bytes) : List (IpAddr × Nat) :=
  if rtype = 1 ∧ rdata.length = 4 then [(.v4 rdata, ttl)]
  else if rtype = 28 ∧ rdata.length = 16 then [(.v6 rdata, ttl)]
  else []

theorem length_slice {data : Bytes} {lo hi : Nat} (h : hi ≤ data.length) :
    (slice data lo hi).length = hi - lo := by
  rw [slice, List.length_drop, List.length_take]
  omega

/-- One record of the loop over the answers. -/
theorem readAnswers_succ (P : Platform) (msg : Bytes) (n pos : Nat) :
    readAnswers P msg (n + 1) pos =
      match readName P msg pos with
      | none => none
      | some (_, np) =>
        if np + 10 > msg.length then none
        else
          let rdlen := u16At msg (np + 8)
          if np + 10 + rdlen > msg.length then none
          else (readAnswers P msg n (np + 10 + rdlen)).map
            (addressIn (u16At msg np) (fromBe (slice msg (np + 4) (np + 8)))
              (slice msg (np + 10) (np + 10 + rdlen)) ++ ·) := by
  rw [readAnswers]
  cases readName P msg pos with
  | none => rfl
  | some r =>
    obtain ⟨name, np⟩ := r
    dsimp only
    by_cases h10 : np + 10 > msg.length
    · rw [if_pos h10, if_pos h10]
    · rw [if_neg h10, if_neg h10]
      by_cases hend : np + 10 + u16At msg (np + 8) > msg.length
      · rw [if_pos hend, if_pos hend]
      · rw [if_neg hend, if_neg hend, addressIn, length_slice (by omega), Nat.add_sub_cancel_left]

namespace Indexed

open Slice

theorem addressOf_eq {rtype rdlen ttl : Nat} (h : pos + rdlen ≤ msg.length) :
    addressOf msg rtype rdlen pos ttl =
      .ok (addressIn rtype ttl (slice msg pos (pos + rdlen))) := by
  have hlen : (slice msg pos (pos + rdlen)).length = rdlen := by
    rw [length_slice h, Nat.add_sub_cancel_left]
  have hraw : range msg pos (pos + rdlen) = .ok (slice msg pos (pos + rdlen)) :=
    range_of_le (by omega) h
  unfold addressOf addressIn
  rw [hlen]
  by_cases h4 : rtype = 1 ∧ rdlen = 4
  · rw [if_pos h4, if_pos h4]
    obtain ⟨-, rfl⟩ := h4
    rw [hraw, ok_bind]
    match slice msg pos (pos + 4), hlen with
    | [a, b, c, d], _ => rfl
  · rw [if_neg h4, if_neg h4]
    by_cases h6 : rtype = 28 ∧ rdlen = 16
    · rw [if_pos h6, if_pos h6]
      obtain ⟨-, rfl⟩ := h6
      rw [hraw, ok_bind, if_pos hlen]
      rfl
    · rw [if_neg h6, if_neg h6]
      rfl

theorem readAnswers_eq (P : Platform) (msg : Bytes) :
    ∀ n pos out, readAnswers P msg n pos out =
      .ok ((Client.readAnswers P msg n pos).map (out ++ ·)) := by
  intro n
  induction n with
  | zero =>
    intro pos out
    rw [readAnswers, Client.readAnswers, Option.map_some, List.append_nil]
    rfl
  | succ n ih =>
    intro pos out
    rw [readAnswers, readAnswers_succ, readName_eq, ok_bind]
    cases Client.readName P msg pos with
    | none => rfl
    | some r =>
      obtain ⟨name, np⟩ := r
      dsimp only
      by_cases h10 : np + 10 > msg.length
      · rw [if_pos h10, if_pos h10]
        rfl
      · rw [if_neg h10, if_neg h10, u16At_eq (by omega), ok_bind, u32At_eq (by omega), ok_bind,
          u16At_eq (by omega), ok_bind]
        by_cases hend : np + 10 + Client.u16At msg (np + 8) > msg.length
        · rw [if_pos hend, if_pos hend]
          rfl
        · rw [if_neg hend, if_neg hend, addressOf_eq (by omega), ok_bind, ih, Option.map_map]
          congr 2
          funext found
          exact List.append_assoc _ _ _

/-- **No message makes `parse_dns_answers` panic**, and it comes to an end on every message. -/
theorem parseDnsAnswers_eq (P : Platform) (msg : Bytes) :
    parseDnsAnswers P msg = .ok (Client.parseDnsAnswers P msg) := by
  unfold parseDnsAnswers Client.parseDnsAnswers
  by_cases h12 : msg.length < 12
  · rw [if_pos h12, if_pos h12]
    rfl
  · rw [if_neg h12, if_neg h12, u16At_eq (by omega), ok_bind, u16At_eq (by omega), ok_bind,
      u16At_eq (by omega), ok_bind]
    by_cases hq : Client.u16At msg 4 = 0
    · rw [if_pos hq, if_pos hq]
      rfl
    · rw [if_neg hq, if_neg hq, readName_eq, ok_bind]
      cases Client.readName P msg 12 with
      | none => rfl
      | some r =>
        obtain ⟨qname, np⟩ := r
        dsimp only
        by_cases h4 : np + 4 > msg.length
        · rw [if_pos h4, if_pos h4]
          rfl
        · rw [if_neg h4, if_neg h4, skipQuestions_eq, ok_bind]
          cases Client.skipQuestions P msg (Client.u16At msg 4 - 1) (np + 4) with
          | none => rfl
          | some pos =>
            dsimp only
            rw [readAnswers_eq, ok_bind]
            cases Client.readAnswers P msg (Client.u16At msg 6) pos with
            | none => rfl
            | some found => rfl

end Indexed

/-! ## 2. What a message says -/

/-- **RFC 1035: the name at a position**: its labels, how many pointers were followed, and the
position behind it in the stream of records.  A pointer ends the name there; the labels go on
elsewhere. -/
inductive NameAt (msg : Bytes) : Nat → List Bytes → Nat → Nat → Prop
  | root {pos : Nat} (h : msg[pos]? = some 0) : NameAt msg pos [] 0 (pos + 1)
  | label {pos behind jumps : Nat} {len : UInt8} {l : Bytes} {ls : List Bytes}
      (h : msg[pos]? = some len) (hpos : 1 ≤ len.toNat) (hlen : len.toNat ≤ 63)
      (hfits : pos + 1 + len.toNat ≤ msg.length)
      (hl : slice msg (pos + 1) (pos + 1 + len.toNat) = l)
      (rest : NameAt msg (pos + 1 + len.toNat) ls jumps behind) :
      NameAt msg pos (l :: ls) jumps behind
  | pointer {pos behind jumps : Nat} {hi lo : UInt8} {ls : List Bytes}
      (h : msg[pos]? = some hi) (htop : 192 ≤ hi.toNat) (hlo : msg[pos + 1]? = some lo)
      (rest : NameAt msg ((hi.toNat - 192) * 256 + lo.toNat) ls jumps behind) :
      NameAt msg pos ls (jumps + 1) (pos + 2)

/-- A label as a text. -/
def labelText (l : Bytes) : Text := l.map fun b => Char.ofNat b.toNat

/-- The labels in lower case, with points between them. -/
def dotted (ls : List Bytes) : Text :=
  ['.'].intercalate (ls.map fun l => Text.toAsciiLowercase (labelText l))

/-- The names that the code promises to read: ASCII labels, not too many, not too many pointers. -/
structure Readable (ls : List Bytes) (jumps : Nat) : Prop where
  ascii : ∀ l ∈ ls, ∀ b ∈ l, b.toNat < 128
  labels : ls.length ≤ 128
  jumps : jumps ≤ 32

structure Question where
  name : List Bytes
  qtype : Nat
  qclass : Nat

structure Record where
  name : List Bytes
  rtype : Nat
  rclass : Nat
  ttl : Nat
  rdata : Bytes

/-- A response, as far as the client reads it: the two sections behind the answers are not looked
at. -/
structure Response where
  id : Nat
  questions : List Question
  answers : List Record

/-- The question between two positions. -/
structure QuestionAt (msg : Bytes) (pos : Nat) (q : Question) (behind : Nat) : Prop where
  name : ∃ jumps np, NameAt msg pos q.name jumps np ∧ Readable q.name jumps ∧ behind = np + 4 ∧
    u16At msg np = q.qtype ∧ u16At msg (np + 2) = q.qclass
  fits : behind ≤ msg.length

/-- The record between two positions. -/
structure RecordAt (msg : Bytes) (pos : Nat) (r : Record) (behind : Nat) : Prop where
  name : ∃ jumps np, NameAt msg pos r.name jumps np ∧ Readable r.name jumps ∧
    u16At msg np = r.rtype ∧ u16At msg (np + 2) = r.rclass ∧
    fromBe (slice msg (np + 4) (np + 8)) = r.ttl ∧ u16At msg (np + 8) = r.rdata.length ∧
    behind = np + 10 + r.rdata.length ∧ slice msg (np + 10) behind = r.rdata
  fits : behind ≤ msg.length

/-- A section: its entries one behind the other. -/
inductive Section {α : Type} (entryAt : Nat → α → Nat → Prop) : Nat → List α → Nat → Prop
  | nil (pos : Nat) : Section entryAt pos [] pos
  | cons {pos mid behind : Nat} {x : α} {xs : List α} (head : entryAt pos x mid)
      (rest : Section entryAt mid xs behind) : Section entryAt pos (x :: xs) behind

/-- **The message carries the response.** -/
structure Carries (msg : Bytes) (r : Response) : Prop where
  header : 12 ≤ msg.length
  id : u16At msg 0 = r.id
  qdcount : u16At msg 4 = r.questions.length
  ancount : u16At msg 6 = r.answers.length
  sections : ∃ mid behind, Section (QuestionAt msg) 12 r.questions mid ∧
    Section (RecordAt msg) mid r.answers behind

/-- The addresses of a response with their TTLs, in order. -/
def Response.addresses (r : Response) : List (IpAddr × Nat) :=
  r.answers.flatMap fun a => addressIn a.rtype a.ttl a.rdata

/-! ## 3. The code reads what the message says -/

/-- The lossy reading of UTF-8 leaves ASCII as it is. -/
def Platform.ReadsAscii (P : Platform) : Prop :=
  ∀ bs : Bytes, (∀ b ∈ bs, b.toNat < 128) → P.fromUtf8Lossy bs = labelText bs

/-- The top bits of a length byte, by its value. -/
theorem lengthByte_table : ∀ n : Fin 256,
    (UInt8.ofNat n &&& 0xC0 = 0xC0 ↔ 192 ≤ n.val) ∧
      (192 ≤ n.val → (UInt8.ofNat n &&& 0x3F).toNat = n.val - 192) := by
  decide +kernel

theorem isPointer_iff (b : UInt8) : b &&& 0xC0 = 0xC0 ↔ 192 ≤ b.toNat := by
  simpa using (lengthByte_table ⟨b.toNat, b.toNat_lt⟩).1

theorem pointer_offset {b : UInt8} (h : 192 ≤ b.toNat) : (b &&& 0x3F).toNat = b.toNat - 192 := by
  simpa using (lengthByte_table ⟨b.toNat, b.toNat_lt⟩).2 h

theorem NameAt.start_lt (h : NameAt msg pos ls jumps behind) : pos < msg.length := by
  cases h with
  | root h => exact (List.getElem?_eq_some_iff.mp h).1
  | label h _ _ _ _ _ => exact (List.getElem?_eq_some_iff.mp h).1
  | pointer h _ _ _ => exact (List.getElem?_eq_some_iff.mp h).1

/-- **The loop follows the name.**  `acc` are the labels before, and the first pointer of all
decides the position behind the name. -/
theorem readNameLoop_of_nameAt (hP : Platform.ReadsAscii P) (h : NameAt msg pos ls jumps behind)
    (hascii : ∀ l ∈ ls, ∀ b ∈ l, b.toNat < 128) :
    ∀ (turns before : Nat) (afterPtr : Option Nat) (acc : List Text), before + jumps ≤ 32 →
      acc.length + ls.length ≤ 128 → jumps + ls.length < turns →
      readNameLoop P msg turns pos before afterPtr acc =
        some (['.'].intercalate (acc ++ ls.map fun l => Text.toAsciiLowercase (labelText l)),
          afterPtr.getD behind) := by
  induction h with
  | root h =>
    intro turns before afterPtr acc _ _ hturns
    obtain ⟨turns, rfl⟩ := Nat.exists_eq_succ_of_ne_zero (Nat.ne_of_gt (Nat.zero_lt_of_lt hturns))
    rw [readNameLoop, h]
    simp only [List.map_nil, List.append_nil]
    rfl
  | @label pos behind jumps len l ls h hpos hlen hfits hl rest ih =>
    intro turns before afterPtr acc hjumps hlabels hturns
    obtain ⟨turns, rfl⟩ := Nat.exists_eq_succ_of_ne_zero (Nat.ne_of_gt (Nat.zero_lt_of_lt hturns))
    rw [List.length_cons] at hlabels hturns
    have hptr : ¬ len &&& 0xC0 = 0xC0 := by
      rw [isPointer_iff]
      omega
    have hroot : len ≠ 0 := by
      rintro rfl
      exact absurd hpos (by decide)
    have hread : P.fromUtf8Lossy (slice msg (pos + 1) (pos + 1 + len.toNat)) = labelText l := by
      rw [hl, hP l (hascii l List.mem_cons_self)]
    rw [readNameLoop, h]
    dsimp only
    rw [if_neg hptr, if_neg hroot, if_neg (by omega), hread, if_neg (by omega),
      ih (fun l hl => hascii l (List.mem_cons_of_mem _ hl)) turns before afterPtr _ hjumps
        (by rw [List.length_append, List.length_singleton]; omega) (by omega),
      List.append_assoc]
    rfl
  | @pointer pos behind jumps hi lo ls h htop hlo rest ih =>
    intro turns before afterPtr acc hjumps hlabels hturns
    obtain ⟨turns, rfl⟩ := Nat.exists_eq_succ_of_ne_zero (Nat.ne_of_gt (Nat.zero_lt_of_lt hturns))
    have hin := rest.start_lt
    rw [readNameLoop, h]
    dsimp only
    rw [if_pos ((isPointer_iff hi).mpr htop), hlo]
    dsimp only
    rw [pointer_offset htop, if_neg (by omega),
      ih hascii turns (before + 1) _ acc (by omega) hlabels (by omega)]
    rfl

/-- **`read_name` is the decoding of RFC 1035**, for the names it promises to read. -/
theorem readName_of_nameAt (hP : Platform.ReadsAscii P) (h : NameAt msg pos ls jumps behind)
    (hr : Readable ls jumps) : readName P msg pos = some (dotted ls, behind) := by
  have hl := hr.labels
  have hj := hr.jumps
  rw [readName, readNameLoop_of_nameAt hP h hr.ascii 161 0 none [] (by omega) (by simpa using hl)
    (by omega)]
  rfl

theorem skipQuestions_of_section (hP : Platform.ReadsAscii P) {qs : List Question}
    (h : Section (QuestionAt msg) pos qs behind) :
    skipQuestions P msg qs.length pos = some behind := by
  induction h with
  | nil pos => rfl
  | cons head rest ih =>
    obtain ⟨⟨jumps, np, hname, hr, rfl, -, -⟩, hfits⟩ := head
    rw [List.length_cons, skipQuestions, readName_of_nameAt hP hname hr]
    dsimp only
    rw [if_neg (by omega), ih]

theorem readAnswers_of_section (hP : Platform.ReadsAscii P) {rs : List Record}
    (h : Section (RecordAt msg) pos rs behind) :
    readAnswers P msg rs.length pos =
      some (rs.flatMap fun a => addressIn a.rtype a.ttl a.rdata) := by
  induction h with
  | nil pos => rfl
  | cons head rest ih =>
    obtain ⟨⟨jumps, np, hname, hr, htype, -, httl, hlen, rfl, hdata⟩, hfits⟩ := head
    rw [List.length_cons, readAnswers_succ, readName_of_nameAt hP hname hr]
    dsimp only
    rw [if_neg (by omega), hlen, if_neg (by omega), ih, htype, httl, hdata]
    rfl

/-- **`parse_dns_answers` returns what the message says.** -/
theorem parseDnsAnswers_of_carries (hP : Platform.ReadsAscii P) {r : Response} (h : Carries msg r)
    {q : Question} {qs : List Question} (hq : r.questions = q :: qs) :
    parseDnsAnswers P msg = some (r.id, dotted q.name, r.addresses) := by
  obtain ⟨mid, behind, hquestions, hanswers⟩ := h.sections
  have hheader := h.header
  rw [hq] at hquestions
  have hcount : u16At msg 4 = qs.length + 1 := by rw [h.qdcount, hq, List.length_cons]
  cases hquestions with
  | cons head rest =>
    obtain ⟨⟨jumps, np, hname, hr, rfl, -, -⟩, hfits⟩ := head
    unfold parseDnsAnswers
    rw [if_neg (by omega), if_neg (by omega), readName_of_nameAt hP hname hr]
    dsimp only
    rw [if_neg (by omega), hcount, Nat.add_sub_cancel, skipQuestions_of_section hP rest]
    dsimp only
    rw [h.ancount, readAnswers_of_section hP hanswers, h.id]
    rfl

/-- The same response up to the data of records that are not addresses: that is where a name may be
written, and so compressed. -/
structure Response.Same (r r' : Response) : Prop where
  id : r.id = r'.id
  questions : r.questions = r'.questions
  answers : List.Forall₂ (fun a b : Record => a.name = b.name ∧ a.rtype = b.rtype ∧
    a.rclass = b.rclass ∧ a.ttl = b.ttl ∧ (a.rtype = 1 ∨ a.rtype = 28 → a.rdata = b.rdata))
    r.answers r'.answers

theorem addressIn_congr {rtype ttl : Nat} {rdata rdata' : Bytes}
    (h : rtype = 1 ∨ rtype = 28 → rdata = rdata') :
    addressIn rtype ttl rdata = addressIn rtype ttl rdata' := by
  by_cases htype : rtype = 1 ∨ rtype = 28
  · rw [h htype]
  · obtain ⟨h1, h28⟩ := not_or.mp htype
    simp only [addressIn, h1, h28, false_and, if_false]

theorem Response.Same.addresses_eq {r r' : Response} (h : r.Same r') :
    r.addresses = r'.addresses := by
  have hall := h.answers
  unfold Response.addresses
  generalize r.answers = xs at hall
  generalize r'.answers = ys at hall
  induction hall with
  | nil => rfl
  | cons head _ ih =>
    obtain ⟨-, htype, -, httl, hdata⟩ := head
    rw [List.flatMap_cons, List.flatMap_cons, ih, ← htype, ← httl, addressIn_congr hdata]

/-- What the reader of answers promises. -/
structure AnswersExact (P : Platform) : Prop where
  /-- no string makes it panic or spin: the code on its slices returns what the model returns -/
  readName_total : ∀ msg start, Indexed.readNameLoop P msg 161 start 0 none [] =
    some (.ok (readName P msg start))
  total : ∀ msg, Indexed.parseDnsAnswers P msg = .ok (parseDnsAnswers P msg)
  readName : ∀ {msg pos ls jumps behind}, NameAt msg pos ls jumps behind → Readable ls jumps →
    Client.readName P msg pos = some (dotted ls, behind)
  answers : ∀ {msg r q qs}, Carries msg r → r.questions = q :: qs →
    parseDnsAnswers P msg = some (r.id, dotted q.name, r.addresses)
  /-- two ways to compress one response -/
  compression : ∀ {msg msg' r r'}, Carries msg r → Carries msg' r' → r.Same r' → r.questions ≠ [] →
    parseDnsAnswers P msg = parseDnsAnswers P msg'

/-- **DNS answers are read exactly, and from every string.** -/
theorem dns_answers_exact {P : Platform} (hP : Platform.ReadsAscii P) : AnswersExact P where
  readName_total msg start :=
    Indexed.readNameLoop_eq P msg 161 start 0 none [] (by omega) (by simp) (by simp)
  total := Indexed.parseDnsAnswers_eq P
  readName := readName_of_nameAt hP
  answers h hq := parseDnsAnswers_of_carries hP h hq
  compression {msg msg' r r'} h h' hsame hne := by
    cases hq : r.questions with
    | nil => exact absurd hq hne
    | cons q qs =>
      rw [parseDnsAnswers_of_carries hP h hq,
        parseDnsAnswers_of_carries hP h' (hsame.questions ▸ hq), hsame.id, hsame.addresses_eq]

/-- A reply whose answer points back to its question. -/
def pointedReply : Bytes :=
  [0x12, 0x34, 0x81, 0x80, 0, 1, 0, 1, 0, 0, 0, 0] ++ [1, 65, 1, 98, 0, 0, 1, 0, 1] ++
    [0xC0, 12, 0, 1, 0, 1, 0, 0, 1, 44, 0, 4, 10, 0, 0, 7]

def pointedResponse : Response :=
  ⟨0x1234, [⟨[[65], [98]], 1, 1⟩], [⟨[[65], [98]], 1, 1, 300, [10, 0, 0, 7]⟩]⟩

/-- The reply carries its response, and the reader gives its one address. -/
theorem dns_answers_exact_pointed :
    Platform.ReadsAscii .ascii ∧ Carries pointedReply pointedResponse ∧
      parseDnsAnswers .ascii pointedReply =
        some (0x1234, "a.b".toList, [(.v4 [10, 0, 0, 7], 300)]) := by
  have hP : Platform.ReadsAscii .ascii := fun _ _ => rfl
  have hname : NameAt pointedReply 12 [[65], [98]] 0 17 :=
    .label rfl (by decide) (by decide) (by decide) rfl
      (.label rfl (by decide) (by decide) (by decide) rfl (.root rfl))
  have hascii : ∀ l ∈ [[65], [98]], ∀ b ∈ l, (b : UInt8).toNat < 128 := by simp
  have hcarries : Carries pointedReply pointedResponse := by
    refine ⟨by decide, by decide, by decide, by decide, 21, 37, ?_, ?_⟩
    · exact .cons ⟨⟨0, 17, hname, ⟨hascii, by decide, by decide⟩, rfl, by decide, by decide⟩,
        by decide⟩ (.nil _)
    · exact .cons ⟨⟨1, 23, .pointer rfl (by decide) rfl hname,
        ⟨hascii, by decide, by decide⟩, by decide, by decide, by decide, by decide, by decide,
        by decide⟩, by decide⟩ (.nil _)
  refine ⟨hP, hcarries, ?_⟩
  rw [(dns_answers_exact hP).answers hcarries rfl]
  decide +kernel

end BibaVpn.Client
