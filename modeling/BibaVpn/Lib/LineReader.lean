/-
# Lines from a buffered stream

A stream arrives in reads of any size.  A buffered reader keeps what it has read and not yet handed
out, and a line is taken from it byte by byte, up to its newline, up to a limit, or up to the end of
the stream.  What matters of a reader is what is PENDING: the bytes in its buffer and those still to
come.

`readLine_ok` says that a line is cut off the front of what is pending, that it keeps to the limit,
and that a line without its newline is at the limit or at the end of the stream.
-/
import BibaVpn.Lib.Machine

namespace LineReader

open Machine

/-- What a read of the stream brings: some bytes, or an error.  The end of the stream is the end of
the list of reads. -/
inductive Read
  | data (first : UInt8) (rest : Bytes)
  | fails (error : String)
  deriving DecidableEq, Repr

def Read.bytes : Read → Bytes
  | .data first rest => first :: rest
  | .fails _ => []

/-- The bytes that are still to come. -/
def unread (reads : List Read) : Bytes := reads.flatMap Read.bytes

/-- A buffered reader: its buffer, and the reads to come. -/
structure Reader where
  buffer : Bytes
  reads : List Read
  deriving DecidableEq, Repr

/-- The bytes that were not handed out. -/
def Reader.pending (r : Reader) : Bytes := r.buffer ++ unread r.reads

/-- A reader at the end of its stream. -/
def Reader.AtEnd (r : Reader) : Prop := r.buffer = [] ∧ r.reads = []

def newline : UInt8 := 10

/-- A whole line: one newline, at its end. -/
def Whole (line : Bytes) : Prop := ∃ body, newline ∉ body ∧ line = body ++ [newline]

/-- The first line of a string, with its newline. -/
def firstLine : Bytes → Option Bytes
  | [] => none
  | b :: bs => if b = newline then some [b] else (firstLine bs).map (b :: ·)

/-- The line, or the part of it up to the limit, if it ends in the buffer; and the rest of the
buffer. -/
def inBuffer (limit : Nat) (buffer : Bytes) : Option (Bytes × Bytes) :=
  match firstLine (buffer.take limit) with
  | some line => some (line, buffer.drop line.length)
  | none => if limit ≤ buffer.length then some (buffer.take limit, buffer.drop limit) else none

/-- Bytes up to a newline, to the limit, or to the end of the stream.  The buffer is filled again
when it is used up. -/
def readUntil : List Read → Nat → Bytes → Except String Bytes × Reader
  | [], limit, buffer =>
    match inBuffer limit buffer with
    | some (line, buffer) => (.ok line, ⟨buffer, []⟩)
    | none => (.ok buffer, ⟨[], []⟩)
  | .fails error :: reads, limit, buffer =>
    match inBuffer limit buffer with
    | some (line, buffer) => (.ok line, ⟨buffer, .fails error :: reads⟩)
    | none => (.error error, ⟨[], reads⟩)
  | .data first rest :: reads, limit, buffer =>
    match inBuffer limit buffer with
    | some (line, buffer) => (.ok line, ⟨buffer, .data first rest :: reads⟩)
    | none =>
      let (line, reader) := readUntil reads (limit - buffer.length) (first :: rest)
      (line.map (buffer ++ ·), reader)

/-- `take(limit).read_until(b'\n')` of a reader. -/
def readLine (limit : Nat) (r : Reader) : Except String Bytes × Reader :=
  readUntil r.reads limit r.buffer

/-- **What a line is**: whole, or cut off at the limit or by the end of the stream. -/
def Ended (limit : Nat) (line : Bytes) (after : Reader) : Prop :=
  Whole line ∨ newline ∉ line ∧ (line.length = limit ∨ after.AtEnd)

theorem firstLine_eq_some : ∀ {bs line : Bytes}, firstLine bs = some line →
    Whole line ∧ ∃ rest, bs = line ++ rest := by
  intro bs
  induction bs with
  | nil => intro line h; cases h
  | cons b bs ih =>
    intro line h
    rw [firstLine] at h
    by_cases hb : b = newline
    · rw [if_pos hb] at h
      cases h
      exact ⟨⟨[], List.not_mem_nil, by rw [hb]; rfl⟩, bs, rfl⟩
    · rw [if_neg hb] at h
      obtain ⟨more, hmore, rfl⟩ := Option.map_eq_some_iff.mp h
      obtain ⟨⟨body, hbody, rfl⟩, rest, hrest⟩ := ih hmore
      refine ⟨⟨b :: body, ?_, rfl⟩, rest, by rw [hrest]; rfl⟩
      exact fun h => (List.mem_cons.mp h).elim (fun h => hb h.symm) hbody

theorem firstLine_eq_none : ∀ {bs : Bytes}, firstLine bs = none ↔ newline ∉ bs := by
  intro bs
  induction bs with
  | nil => exact iff_of_true rfl List.not_mem_nil
  | cons b bs ih =>
    rw [firstLine, List.mem_cons, not_or]
    by_cases hb : b = newline
    · rw [if_pos hb]
      exact iff_of_false (fun h => nomatch h) fun h => h.1 hb.symm
    · rw [if_neg hb, Option.map_eq_none_iff, ih]
      exact (and_iff_right fun h => hb h.symm).symm

theorem inBuffer_eq_some {limit : Nat} {buffer line rest : Bytes}
    (h : inBuffer limit buffer = some (line, rest)) :
    buffer = line ++ rest ∧ line.length ≤ limit ∧
      (Whole line ∨ newline ∉ line ∧ line.length = limit) := by
  unfold inBuffer at h
  cases hf : firstLine (buffer.take limit) with
  | some first =>
    rw [hf] at h
    cases h
    obtain ⟨hwhole, more, hmore⟩ := firstLine_eq_some hf
    have hbuffer : buffer = line ++ (more ++ buffer.drop limit) := by
      rw [← List.append_assoc, ← hmore, List.take_append_drop]
    refine ⟨?_, ?_, Or.inl hwhole⟩
    · conv => rhs; rw [hbuffer, List.drop_left]
      exact hbuffer
    · have hlen := congrArg List.length hmore
      rw [List.length_take, List.length_append] at hlen
      omega
  | none =>
    rw [hf] at h
    dsimp only at h
    split at h
    · rename_i hle
      cases h
      have hlen : (buffer.take limit).length = limit := by
        rw [List.length_take]
        omega
      exact ⟨(List.take_append_drop limit buffer).symm, Nat.le_of_eq hlen,
        Or.inr ⟨firstLine_eq_none.mp hf, hlen⟩⟩
    · cases h

theorem inBuffer_eq_none {limit : Nat} {buffer : Bytes} (h : inBuffer limit buffer = none) :
    newline ∉ buffer ∧ buffer.length < limit := by
  unfold inBuffer at h
  cases hf : firstLine (buffer.take limit) with
  | some first =>
    rw [hf] at h
    cases h
  | none =>
    rw [hf] at h
    dsimp only at h
    split at h
    · cases h
    · rename_i hlt
      have htake : buffer.take limit = buffer := List.take_of_length_le (by omega)
      rw [htake] at hf
      exact ⟨firstLine_eq_none.mp hf, by omega⟩

/-- What ends in the buffer. -/
theorem readUntil_of_some {limit : Nat} {buffer line rest : Bytes} (reads : List Read)
    (h : inBuffer limit buffer = some (line, rest)) :
    readUntil reads limit buffer = (.ok line, ⟨rest, reads⟩) := by
  match reads with
  | [] => rw [readUntil, h]
  | .fails error :: reads => rw [readUntil, h]
  | .data first more :: reads => rw [readUntil, h]

theorem readUntil_ok : ∀ {reads : List Read} {limit : Nat} {buffer line : Bytes} {after : Reader},
    readUntil reads limit buffer = (.ok line, after) →
    buffer ++ unread reads = line ++ after.pending ∧ line.length ≤ limit ∧
      Ended limit line after := by
  -- what ends in the buffer ends the same way whatever is read behind it
  have hfound : ∀ {reads limit buffer line after found},
      readUntil reads limit buffer = (.ok line, after) → inBuffer limit buffer = some found →
      buffer ++ unread reads = line ++ after.pending ∧ line.length ≤ limit ∧
        Ended limit line after := by
    rintro reads limit buffer line after ⟨found, rest⟩ h hb
    rw [readUntil_of_some _ hb] at h
    cases h
    obtain ⟨hsplit, hlen, hend⟩ := inBuffer_eq_some hb
    refine ⟨by rw [hsplit, List.append_assoc]; rfl, hlen, ?_⟩
    exact hend.imp id fun h => ⟨h.1, Or.inl h.2⟩
  intro reads
  induction reads with
  | nil =>
    intro limit buffer line after h
    cases hb : inBuffer limit buffer with
    | some found => exact hfound h hb
    | none =>
      obtain ⟨hno, hlt⟩ := inBuffer_eq_none hb
      rw [readUntil, hb] at h
      cases h
      exact ⟨rfl, Nat.le_of_lt hlt, Or.inr ⟨hno, Or.inr ⟨rfl, rfl⟩⟩⟩
  | cons read reads ih =>
    intro limit buffer line after h
    cases hb : inBuffer limit buffer with
    | some found => exact hfound h hb
    | none =>
      obtain ⟨hno, hlt⟩ := inBuffer_eq_none hb
      cases read with
      | fails error =>
        rw [readUntil, hb] at h
        cases h
      | data first rest =>
        rw [readUntil, hb] at h
        dsimp only at h
        cases hmore : readUntil reads (limit - buffer.length) (first :: rest) with
        | mk result reader =>
          rw [hmore] at h
          cases result with
          | error e => cases h
          | ok more =>
            cases h
            obtain ⟨hsplit, hlen, hend⟩ := ih hmore
            have hpending : unread (.data first rest :: reads) = more ++ reader.pending := hsplit
            refine ⟨by rw [hpending, List.append_assoc], ?_, ?_⟩
            · rw [List.length_append]
              omega
            · rcases hend with ⟨body, hbody, rfl⟩ | ⟨hnone, hstop⟩
              · refine Or.inl ⟨buffer ++ body, ?_, (List.append_assoc _ _ _).symm⟩
                exact fun h => (List.mem_append.mp h).elim hno hbody
              · refine Or.inr ⟨fun h => (List.mem_append.mp h).elim hno hnone,
                  hstop.imp (fun h => ?_) id⟩
                rw [List.length_append]
                omega

/-- **A line is cut off the front of what is pending**, whatever the reads are. -/
theorem readLine_ok {limit : Nat} {r after : Reader} {line : Bytes}
    (h : readLine limit r = (.ok line, after)) :
    r.pending = line ++ after.pending ∧ line.length ≤ limit ∧ Ended limit line after :=
  readUntil_ok h

end LineReader
