/-
# Reading DNS messages

The client looks into two kinds of DNS messages (`domain_route.rs`): the query it forwards, for its
id and its question (`parseDnsQuery`), and the reply, for the addresses it lists
(`parseDnsAnswers`).  Both read names with compression pointers.  The loop of `readName` follows at
most 32 pointers and collects at most 128 labels, so a fixed number of turns is enough for every
message, which is what makes it a structural recursion here (`Indexed.readNameLoop_eq` in
`DnsAnswers`).
-/
import BibaVpn.Wire.UdpWire

namespace BibaVpn.Client

open Machine Wire

/-- `&data[from..to]`. -/
def slice (data : Bytes) (lo hi : Nat) : Bytes := (data.take hi).drop lo

/-- `u16::from_be_bytes([data[i], data[i + 1]])`. -/
def u16At (data : Bytes) (i : Nat) : Nat := fromBe (slice data i (i + 2))

/-! ## 1. Names -/

/-- The loop of `read_name`. -/
def readNameLoop (P : Platform) (msg : Bytes) :
    Nat → Nat → Nat → Option Nat → List Text → Option (Text × Nat)
  | 0, _, _, _, _ => none
  | fuel + 1, pos, jumps, afterPtr, labels =>
    match msg[pos]? with
    | none => none
    | some len =>
      if len &&& 0xC0 = 0xC0 then
        match msg[pos + 1]? with
        | none => none
        | some b2 =>
          let ptr := (len &&& 0x3F).toNat * 256 + b2.toNat
          if jumps + 1 > 32 ∨ ptr ≥ msg.length then none
          else readNameLoop P msg fuel ptr (jumps + 1) (some (afterPtr.getD (pos + 2))) labels
      else if len = 0 then some (['.'].intercalate labels, afterPtr.getD (pos + 1))
      else
        let e := pos + 1 + len.toNat
        if e > msg.length then none
        else
          let label := Text.toAsciiLowercase (P.fromUtf8Lossy (slice msg (pos + 1) e))
          if labels.length + 1 > 128 then none
          else readNameLoop P msg fuel e jumps afterPtr (labels ++ [label])

/-- `read_name`: the dotted name in lower case, and the position behind it. -/
def readName (P : Platform) (msg : Bytes) (start : Nat) : Option (Text × Nat) :=
  readNameLoop P msg 161 start 0 none []

/-! ## 2. Messages -/

/-- `parse_dns_query`: the id and the first question. -/
def parseDnsQuery (P : Platform) (msg : Bytes) : Option (Nat × Text) :=
  if msg.length < 12 then none
  else if u16At msg 4 = 0 then none
  else match readName P msg 12 with
    | none => none
    | some (qname, pos) => if pos + 4 > msg.length then none else some (u16At msg 0, qname)

/-- The remaining questions are skipped. -/
def skipQuestions (P : Platform) (msg : Bytes) : Nat → Nat → Option Nat
  | 0, pos => some pos
  | n + 1, pos =>
    match readName P msg pos with
    | none => none
    | some (_, pos) => if pos + 4 > msg.length then none else skipQuestions P msg n (pos + 4)

/-- The answer records: the A and AAAA ones with their TTL, the others skipped. -/
def readAnswers (P : Platform) (msg : Bytes) : Nat → Nat → Option (List (IpAddr × Nat))
  | 0, _ => some []
  | n + 1, pos =>
    match readName P msg pos with
    | none => none
    | some (_, pos) =>
      if pos + 10 > msg.length then none
      else
        let rtype := u16At msg pos
        let ttl := fromBe (slice msg (pos + 4) (pos + 8))
        let rdlen := u16At msg (pos + 8)
        let pos := pos + 10
        if pos + rdlen > msg.length then none
        else
          let rdata := slice msg pos (pos + rdlen)
          let found :=
            if rtype = 1 ∧ rdlen = 4 then [(IpAddr.v4 rdata, ttl)]
            else if rtype = 28 ∧ rdlen = 16 then [(IpAddr.v6 rdata, ttl)]
            else []
          (readAnswers P msg n (pos + rdlen)).map (found ++ ·)

/-- `parse_dns_answers`: the id, the first question, and the addresses with their TTLs. -/
def parseDnsAnswers (P : Platform) (msg : Bytes) : Option (Nat × Text × List (IpAddr × Nat)) :=
  if msg.length < 12 then none
  else if u16At msg 4 = 0 then none
  else match readName P msg 12 with
    | none => none
    | some (qname, pos) =>
      if pos + 4 > msg.length then none
      else match skipQuestions P msg (u16At msg 4 - 1) (pos + 4) with
        | none => none
        | some pos => (readAnswers P msg (u16At msg 6) pos).map fun found =>
            (u16At msg 0, qname, found)

end BibaVpn.Client
