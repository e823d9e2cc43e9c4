/-
# The TLS ClientHello peek of the local client

`peek_tls_client_hello_record` (`local_client.rs`) reads from the local socket until the
first TLS record is complete and hands everything it consumed to the route that follows, as
that route's prefetch.  Its buffer is cut in two places: at the end of the record, and at
`TLS_RECORD_PEEK_MAX`.  Bytes behind the cut were consumed from the socket, so they are gone.

* §1 is the loop over an arbitrary schedule of reads: each `read` yields up to 4096 of the
  bytes still in the socket, or nothing (EOF), or times out, or fails.
* §2 gives the condition in terms of the input alone: the lengths at which the reads end
  (`readEnds`) and the record length that the first five bytes announce (`recordEnd`).
* §3 is the exact result: the peek loses nothing IF AND ONLY IF the first read boundary that
  reaches the end of the record lies on it, or a later read ends exactly on the cap.
* §4 carries it over to `resolve_domain_split_route`.
-/
import BibaVpn.Lib.Machine

namespace BibaVpn.Client

open Machine

/-! ## 1. The loop -/

/-- `TLS_RECORD_PEEK_MAX`. -/
def tlsRecordPeekMax : Nat := 16384

/-- The size of the `scratch` buffer: one `read` yields at most this many bytes. -/
def scratchLen : Nat := 4096

/-- How one `timeout(remaining, local.read(..))` ends. -/
inductive ReadOutcome
  /-- the deadline passes first -/
  | timeout
  /-- the socket reports an error -/
  | failed
  /-- up to `n` bytes are there; with `n = 0`, or nothing left to come, this is EOF -/
  | ready (n : Nat)
  deriving DecidableEq, Repr

/-- The length of the first TLS record in `buf` with its header, cut at the cap; `none` while
the header is incomplete or when the first byte is not a handshake record. -/
def recordEnd : Bytes → Option Nat
  | ty :: _ :: _ :: hi :: lo :: _ =>
    if ty = 0x16 then some (min (5 + fromBe16 hi lo) tlsRecordPeekMax) else none
  | _ => none

/-- The tests at the top of the loop: the buffer to stop with, if the loop stops here. -/
def peekDone (buf : Bytes) : Option Bytes :=
  if buf.length < 5 then none
  else match recordEnd buf with
    | none => some buf
    | some total => if total ≤ buf.length then some (buf.take total) else none

/-- `peek_tls_client_hello_record` from the buffer `buf`, with `unread` still to come from the
socket and one outcome per `read`.  When the outcomes run out the deadline has passed.  The
result is the returned buffer and what is left in the socket. -/
def peekTlsClientHelloRecord (buf unread : Bytes) : List ReadOutcome → Bytes × Bytes
  | [] => ((peekDone buf).getD buf, unread)
  | outcome :: rest =>
    match peekDone buf, outcome with
    | some b, _ => (b, unread)
    | none, .timeout => (buf, unread)
    | none, .failed => (buf, unread)
    | none, .ready n =>
      let got := unread.take (min n scratchLen)
      let left := unread.drop (min n scratchLen)
      if got = [] then (buf, unread)
      else if tlsRecordPeekMax ≤ (buf ++ got).length then
        ((buf ++ got).take tlsRecordPeekMax, left)
      else peekTlsClientHelloRecord (buf ++ got) left rest

/-! ## 2. What the schedule of reads looks like from outside -/

/-- The lengths of consumed input at which the loop's reads end, the initial length first, for
a socket with `left` bytes still to come. -/
def readEnds (len left : Nat) : List ReadOutcome → List Nat
  | [] => [len]
  | .timeout :: _ => [len]
  | .failed :: _ => [len]
  | .ready n :: rest =>
    let k := min (min n scratchLen) left
    if k = 0 then [len] else len :: readEnds (len + k) (left - k) rest

/-- **The lossless schedules.**  `e` is the first read boundary at or beyond the end of the
record: it lies on that end; or it lies on the cap, having been reached by a read. -/
def PeekAligned (buf unread : Bytes) (outcomes : List ReadOutcome) : Prop :=
  ∀ total, recordEnd (buf ++ unread) = some total →
    ∀ e, (readEnds buf.length unread.length outcomes).find? (fun e => decide (total ≤ e)) = some e →
      e = total ∨ (buf.length < total ∧ e = tlsRecordPeekMax)

theorem recordEnd_append {a : Bytes} (h : 5 ≤ a.length) (b : Bytes) :
    recordEnd (a ++ b) = recordEnd a := by
  match a, h with
  | _ :: _ :: _ :: _ :: _ :: _, _ => rfl

theorem recordEnd_bounds {a : Bytes} {total : Nat} (h : recordEnd a = some total) :
    5 ≤ total ∧ total ≤ tlsRecordPeekMax := by
  match a, h with
  | ty :: x :: y :: hi :: lo :: rest, h =>
    simp only [recordEnd] at h
    split at h
    · cases h
      simp only [tlsRecordPeekMax]
      omega
    · cases h

variable {buf unread : Bytes}

theorem peekDone_eq_none (h : peekDone buf = none) :
    buf.length < 5 ∨ ∃ total, recordEnd buf = some total ∧ buf.length < total := by
  unfold peekDone at h
  split at h
  · exact Or.inl ‹_›
  · right
    split at h
    · cases h
    · split at h
      · cases h
      · exact ⟨_, ‹_›, Nat.lt_of_not_le ‹_›⟩

/-- A loop that goes on reading has not reached the end of the record. -/
theorem length_lt_of_peekDone_eq_none {total : Nat} (h : peekDone buf = none)
    (hr : recordEnd (buf ++ unread) = some total) : buf.length < total := by
  rcases peekDone_eq_none h with h5 | ⟨t, ht, hlt⟩
  · exact Nat.lt_of_lt_of_le h5 (recordEnd_bounds hr).1
  · by_cases h5 : 5 ≤ buf.length
    · rw [recordEnd_append h5, ht] at hr
      cases hr
      exact hlt
    · exact Nat.lt_of_lt_of_le (Nat.lt_of_not_le h5) (recordEnd_bounds hr).1

/-- The initial length heads the read boundaries. -/
theorem readEnds_eq_cons (len left : Nat) (outcomes : List ReadOutcome) :
    ∃ rest, readEnds len left outcomes = len :: rest := by
  match outcomes with
  | [] => exact ⟨[], rfl⟩
  | .timeout :: _ => exact ⟨[], rfl⟩
  | .failed :: _ => exact ⟨[], rfl⟩
  | .ready n :: rest =>
    simp only [readEnds]
    split
    · exact ⟨[], rfl⟩
    · exact ⟨_, rfl⟩

/-- A list cut at a length is the whole list only if it is not longer. -/
theorem take_append_eq_iff {k : Nat} (h : k ≤ buf.length) :
    buf.take k ++ unread = buf ++ unread ↔ buf.length = k := by
  rw [List.append_left_inj]
  constructor
  · intro heq
    have := congrArg List.length heq
    rw [List.length_take] at this
    omega
  · intro heq
    exact List.take_of_length_le (Nat.le_of_eq heq)

/-! ## 3. The peek loses nothing exactly on the aligned schedules -/

/-- The loop stops at its top: what it returns and what is left make up the input iff the
buffer ends with the record. -/
theorem peek_stop {b : Bytes} (outcomes : List ReadOutcome) (hb : peekDone buf = some b) :
    b ++ unread = buf ++ unread ↔ PeekAligned buf unread outcomes := by
  unfold peekDone at hb
  split at hb
  · cases hb
  · rename_i h5
    have hrec := recordEnd_append (Nat.le_of_not_lt h5) unread
    obtain ⟨rest, hends⟩ := readEnds_eq_cons buf.length unread.length outcomes
    split at hb
    · rename_i hnone
      cases hb
      refine ⟨fun _ total ht => ?_, fun _ => rfl⟩
      rw [hrec, hnone] at ht
      cases ht
    · rename_i total hsome
      split at hb
      · rename_i hle
        cases hb
        rw [take_append_eq_iff hle]
        constructor
        · intro heq total' ht e he
          rw [hrec, hsome] at ht
          cases ht
          rw [hends, List.find?_cons_of_pos (by simpa using hle)] at he
          cases he
          exact Or.inl heq
        · intro hA
          have := hA total (hrec.trans hsome) buf.length
            (by rw [hends, List.find?_cons_of_pos (by simpa using hle)])
          omega
      · cases hb

/-- No further read: nothing was cut, and no read boundary reaches the end of the record. -/
theorem peekAligned_of_no_read {outcomes : List ReadOutcome} (hb : peekDone buf = none)
    (he : readEnds buf.length unread.length outcomes = [buf.length]) :
    PeekAligned buf unread outcomes := by
  intro total ht e hf
  have hlt := length_lt_of_peekDone_eq_none hb ht
  rw [he, List.find?_cons_of_neg (by simpa using hlt)] at hf
  cases hf

/-- One more read, below the end of the record: the boundaries that matter are those of the
loop after it. -/
theorem peekAligned_read {got : Bytes} {n : Nat} {rest : List ReadOutcome}
    (hb : peekDone buf = none) (hgot : got ≠ [])
    (hlen : min (min n scratchLen) (got ++ unread).length = got.length) :
    PeekAligned buf (got ++ unread) (.ready n :: rest) ↔
      ∀ total, recordEnd ((buf ++ got) ++ unread) = some total →
        ∀ e, (readEnds (buf ++ got).length unread.length rest).find?
            (fun e => decide (total ≤ e)) = some e →
          e = total ∨ e = tlsRecordPeekMax := by
  have hpos : got.length ≠ 0 := by simpa using hgot
  have hends : readEnds buf.length (got ++ unread).length (.ready n :: rest)
      = buf.length :: readEnds (buf ++ got).length unread.length rest := by
    simp only [readEnds, hlen, if_neg hpos]
    simp only [List.length_append, Nat.add_sub_cancel_left]
  simp only [PeekAligned, hends, List.append_assoc]
  constructor
  · intro hA total ht e he
    have hlt := length_lt_of_peekDone_eq_none hb ht
    rcases hA total ht e (by rwa [List.find?_cons_of_neg (by simpa using hlt)]) with h | h
    · exact Or.inl h
    · exact Or.inr h.2
  · intro hA total ht e he
    have hlt := length_lt_of_peekDone_eq_none hb ht
    rw [List.find?_cons_of_neg (by simpa using hlt)] at he
    rcases hA total ht e he with h | h
    · exact Or.inl h
    · exact Or.inr ⟨hlt, h⟩

/-- Below the cap a boundary on the cap is one that a read has reached. -/
theorem peekAligned_below_cap {outcomes : List ReadOutcome} (hcap : buf.length < tlsRecordPeekMax) :
    PeekAligned buf unread outcomes ↔
      ∀ total, recordEnd (buf ++ unread) = some total →
        ∀ e, (readEnds buf.length unread.length outcomes).find?
            (fun e => decide (total ≤ e)) = some e →
          e = total ∨ e = tlsRecordPeekMax := by
  constructor
  · intro hA total ht e he
    exact (hA total ht e he).imp_right And.right
  · intro hA total ht e he
    refine (hA total ht e he).imp_right fun hmax => ⟨?_, hmax⟩
    by_contra hle
    obtain ⟨ends, hends⟩ := readEnds_eq_cons buf.length unread.length outcomes
    rw [hends, List.find?_cons_of_pos (by simpa using Nat.le_of_not_lt hle)] at he
    cases he
    omega

/-- The buffer reaches the cap: it is cut there, and the boundary just reached is the first one
at or beyond the end of the record. -/
theorem peek_cap {got : Bytes} {rest : List ReadOutcome} (hb : peekDone buf = none)
    (hgot : got.length ≤ scratchLen) (hcap : tlsRecordPeekMax ≤ (buf ++ got).length) :
    (buf ++ got).take tlsRecordPeekMax ++ unread = (buf ++ got) ++ unread ↔
      ∀ total, recordEnd ((buf ++ got) ++ unread) = some total →
        ∀ e, (readEnds (buf ++ got).length unread.length rest).find?
            (fun e => decide (total ≤ e)) = some e →
          e = total ∨ e = tlsRecordPeekMax := by
  rw [take_append_eq_iff hcap]
  obtain ⟨ends, hends⟩ := readEnds_eq_cons (buf ++ got).length unread.length rest
  -- a read that reaches the cap started above five bytes, inside an incomplete record
  have h5 : ¬ buf.length < 5 := by
    simp only [List.length_append, tlsRecordPeekMax, scratchLen] at hcap hgot
    omega
  obtain ⟨total, ht, -⟩ := (peekDone_eq_none hb).resolve_left h5
  have ht' : recordEnd ((buf ++ got) ++ unread) = some total := by
    rw [List.append_assoc, recordEnd_append (Nat.le_of_not_lt h5), ht]
  have hle := le_trans (recordEnd_bounds ht).2 hcap
  have hfind : (readEnds (buf ++ got).length unread.length rest).find?
      (fun e => decide (total ≤ e)) = some (buf ++ got).length := by
    rw [hends, List.find?_cons_of_pos (by simpa using hle)]
  constructor
  · intro heq total' ht2 e he
    rw [ht'] at ht2
    cases ht2
    rw [hfind] at he
    cases he
    exact Or.inr heq
  · intro hA
    have := (recordEnd_bounds ht).2
    rcases hA total ht' _ hfind with h | h <;> omega

/-- **What the peek returns, followed by what is left in the socket, is the input IF AND ONLY IF
the schedule is aligned.**  Induction on the reads. -/
theorem peek_lossless_iff : ∀ (outcomes : List ReadOutcome) (buf unread : Bytes),
    (peekTlsClientHelloRecord buf unread outcomes).1 ++
        (peekTlsClientHelloRecord buf unread outcomes).2 = buf ++ unread ↔
      PeekAligned buf unread outcomes := by
  intro outcomes
  induction outcomes with
  | nil =>
    intro buf unread
    cases hb : peekDone buf with
    | some b => simpa only [peekTlsClientHelloRecord, hb, Option.getD_some] using peek_stop [] hb
    | none =>
      simp only [peekTlsClientHelloRecord, hb, Option.getD_none, true_iff]
      exact peekAligned_of_no_read hb rfl
  | cons o rest ih =>
    intro buf unread
    cases hb : peekDone buf with
    | some b => simpa only [peekTlsClientHelloRecord, hb] using peek_stop (o :: rest) hb
    | none =>
      cases o with
      | timeout =>
        simp only [peekTlsClientHelloRecord, hb, true_iff]
        exact peekAligned_of_no_read hb rfl
      | failed =>
        simp only [peekTlsClientHelloRecord, hb, true_iff]
        exact peekAligned_of_no_read hb rfl
      | ready n =>
        simp only [peekTlsClientHelloRecord, hb]
        by_cases hgot : unread.take (min n scratchLen) = []
        · simp only [if_pos hgot, true_iff]
          refine peekAligned_of_no_read hb ?_
          have h0 : min (min n scratchLen) unread.length = 0 := by
            rw [← List.length_take, hgot, List.length_nil]
          simp only [readEnds, h0, if_pos]
        · simp only [if_neg hgot]
          set got := unread.take (min n scratchLen) with hg
          set left := unread.drop (min n scratchLen) with hl
          have hsplit : unread = got ++ left := (List.take_append_drop _ _).symm
          have hlen : min (min n scratchLen) unread.length = got.length := by
            rw [hg, List.length_take]
          have hmax : got.length ≤ scratchLen := by omega
          rw [hsplit] at hlen ⊢
          rw [peekAligned_read hb hgot hlen, ← List.append_assoc]
          split
          · exact peek_cap hb hmax ‹_›
          · rename_i hcap
            rw [ih, peekAligned_below_cap (Nat.lt_of_not_le hcap)]

/-! ## 4. The route that receives the prefetch -/

/-- What `resolve_domain_split_route` asks its environment: the bypass list (`domain_route.rs`),
the address parser, and the SNI reader. -/
structure SplitPolicy where
  shouldBypass : String → Bool
  bypassDomainsActive : Bool
  isIpAddr : String → Bool
  extractClientHelloSni : Bytes → Option String
  matchesActiveBypass : String → Bool

/-- `DomainSplitRoute`. -/
structure DomainSplitRoute where
  direct : Bool
  prefetch : Bytes
  deriving DecidableEq, Repr

/-- `resolve_domain_split_route`, with what it leaves in the local socket. -/
def resolveDomainSplitRoute (P : SplitPolicy) (host : String) (port : Nat)
    (existingPrefetch unread : Bytes) (sniPeek : Bool) (outcomes : List ReadOutcome) :
    DomainSplitRoute × Bytes :=
  if P.shouldBypass host then (⟨true, existingPrefetch⟩, unread)
  else if !sniPeek then (⟨false, existingPrefetch⟩, unread)
  else if !P.bypassDomainsActive || port != 443 then (⟨false, existingPrefetch⟩, unread)
  else if !P.isIpAddr host then (⟨false, existingPrefetch⟩, unread)
  else
    let (peeked, left) := peekTlsClientHelloRecord existingPrefetch unread outcomes
    match P.extractClientHelloSni peeked with
    | some sni =>
      if P.matchesActiveBypass sni then (⟨true, peeked⟩, left) else (⟨false, peeked⟩, left)
    | none => (⟨false, peeked⟩, left)

/-- The connections whose socket is peeked. -/
def sniPeeked (P : SplitPolicy) (host : String) (port : Nat) (sniPeek : Bool) : Bool :=
  !P.shouldBypass host && sniPeek && P.bypassDomainsActive && port == 443 && P.isIpAddr host

/-- The prefetch is the peeked buffer on a peeked connection, and the given one on any other. -/
theorem resolveDomainSplitRoute_bytes (P : SplitPolicy) (host : String) (port : Nat)
    (existing unread : Bytes) (sniPeek : Bool) (outcomes : List ReadOutcome) :
    let r := resolveDomainSplitRoute P host port existing unread sniPeek outcomes
    (r.1.prefetch, r.2) = if sniPeeked P host port sniPeek then
      peekTlsClientHelloRecord existing unread outcomes else (existing, unread) := by
  unfold resolveDomainSplitRoute sniPeeked
  cases hb : P.shouldBypass host <;> cases hs : sniPeek <;> cases ha : P.bypassDomainsActive <;>
    cases hi : P.isIpAddr host <;> by_cases hp : port = 443 <;> simp [hp]
  split
  · split <;> rfl
  · rfl

/-- **No application byte is lost, exactly on the aligned schedules**: neither by the peek, nor by
the route that hands the peeked bytes on. -/
theorem split_route_lossless_iff (P : SplitPolicy) (host : String) (port : Nat) (sniPeek : Bool)
    (buf unread : Bytes) (outcomes : List ReadOutcome) :
    ((peekTlsClientHelloRecord buf unread outcomes).1 ++
          (peekTlsClientHelloRecord buf unread outcomes).2 = buf ++ unread ↔
        PeekAligned buf unread outcomes) ∧
      ((resolveDomainSplitRoute P host port buf unread sniPeek outcomes).1.prefetch ++
          (resolveDomainSplitRoute P host port buf unread sniPeek outcomes).2 = buf ++ unread ↔
        (sniPeeked P host port sniPeek = true → PeekAligned buf unread outcomes)) := by
  refine ⟨peek_lossless_iff outcomes buf unread, ?_⟩
  have hr := resolveDomainSplitRoute_bytes P host port buf unread sniPeek outcomes
  cases hp : sniPeeked P host port sniPeek with
  | false =>
    rw [hp, if_neg Bool.false_ne_true] at hr
    obtain ⟨h1, h2⟩ := Prod.mk.inj hr
    simp [h1, h2]
  | true =>
    rw [hp, if_pos rfl] at hr
    obtain ⟨h1, h2⟩ := Prod.mk.inj hr
    simpa [h1, h2] using peek_lossless_iff outcomes buf unread

/-- A ClientHello record of two payload bytes with the first byte of the next record in the same
read: the peek stops at the end of the first record and the byte `9` behind it is gone. -/
theorem peek_loses_byte :
    peekTlsClientHelloRecord [] [0x16, 3, 1, 0, 2, 1, 2, 9] [.ready 4096]
        = ([0x16, 3, 1, 0, 2, 1, 2], []) ∧
      (peekTlsClientHelloRecord [] [0x16, 3, 1, 0, 2, 1, 2, 9] [.ready 4096]).1 ++
          (peekTlsClientHelloRecord [] [0x16, 3, 1, 0, 2, 1, 2, 9] [.ready 4096]).2
        ≠ [] ++ [0x16, 3, 1, 0, 2, 1, 2, 9] := by
  decide

end BibaVpn.Client
