/-
# Stealth settings of the client

The settings that shape the traffic of a client (`stealth_v12.rs`, `tls_util.rs`, `frame.rs`,
`client_policy.rs`) are enumerations, each with the names that the command line and the start
configuration accept.  A stealth profile stands for a preset of the others, which holds where no
explicit value is given.

`quote` is the text of `{:?}` of a string, in the error messages.
-/
import BibaVpn.Lib.Fallible
import BibaVpn.Lib.Text
import BibaVpn.Wire.Frame

namespace BibaVpn.Client

open Wire (PadMode)

/-! ## 1. Enumerations and their names -/

/-- `StealthProfile`. -/
inductive StealthProfile
  | default
  | balanced
  | aggressive
  deriving DecidableEq, Repr

/-- `DecoyMode`. -/
inductive DecoyMode
  | simple
  | browser
  deriving DecidableEq, Repr

/-- `DesyncMode`. -/
inductive DesyncMode
  | off
  | split2
  | fakeDsplit
  | disorder
  deriving DecidableEq, Repr

/-- `TcpFooling`. -/
inductive TcpFooling
  | off
  | md5Sig
  | badSeq
  | badSum
  deriving DecidableEq, Repr

/-- `TlsStack`. -/
inductive TlsStack
  | rustls
  | boring
  deriving DecidableEq, Repr

/-- `TlsClientProfile`. -/
inductive TlsClientProfile
  | default
  | chrome70
  | chrome132
  | firefox65
  | firefox63
  | firefox136
  | safari18
  | randomized
  | randomizedAlpn
  | randomizedNoAlpn
  deriving DecidableEq, Repr

/-- The `match` of a `FromStr`: the value with that name, or the message for an unknown one. -/
def fromNames {α : Type} (names : List (String × α)) (unknown : Text → String) (t : Text) :
    Except String α :=
  match names.find? fun e => e.1.toList == t with
  | some e => .ok e.2
  | none => .error (unknown t)

/-- `s.trim().to_ascii_lowercase()`. -/
def lowered (s : Text) : Text := Text.toAsciiLowercase (Text.trim s)

/-- `s.trim().to_ascii_lowercase().replace('_', "-")`. -/
def dashed (s : Text) : Text := Text.replaceChar '_' '-' (lowered s)

def StealthProfile.fromStr (quote : Text → String) (s : Text) : Except String StealthProfile :=
  fromNames [("", .default), ("default", .default), ("balanced", .balanced),
      ("aggressive", .aggressive)]
    (fun other =>
      "unknown --stealth-profile " ++ quote other ++ ": default, balanced, aggressive") (dashed s)

def DecoyMode.fromStr (quote : Text → String) (s : Text) : Except String DecoyMode :=
  fromNames [("simple", .simple), ("default", .simple), ("browser", .browser)]
    (fun other => "unknown --decoy-mode " ++ quote other ++ ": simple, browser") (lowered s)

def DesyncMode.fromStr (quote : Text → String) (s : Text) : Except String DesyncMode :=
  fromNames [("", .off), ("off", .off), ("none", .off), ("split2", .split2), ("split-2", .split2),
      ("fakedsplit", .fakeDsplit), ("fake-dsplit", .fakeDsplit), ("disorder", .disorder)]
    (fun other =>
      "unknown --desync-mode " ++ quote other ++ ": off, split2, fakedsplit, disorder") (dashed s)

def TcpFooling.fromStr (quote : Text → String) (s : Text) : Except String TcpFooling :=
  fromNames [("", .off), ("off", .off), ("none", .off), ("md5sig", .md5Sig), ("md5-sig", .md5Sig),
      ("badseq", .badSeq), ("bad-seq", .badSeq), ("badsum", .badSum), ("bad-sum", .badSum)]
    (fun other => "unknown --fooling " ++ quote other ++ ": off, md5sig, badseq, badsum") (dashed s)

def TlsStack.fromStr (quote : Text → String) (s : Text) : Except String TlsStack :=
  fromNames [("", .rustls), ("rustls", .rustls), ("boring", .boring), ("boringssl", .boring),
      ("bssl", .boring)]
    (fun other => "unknown tls-stack " ++ quote other ++ ": rustls, boring") (lowered s)

def padModeFromStr (quote : Text → String) (s : Text) : Except String PadMode :=
  fromNames [("", .adaptive), ("adaptive", .adaptive), ("random", .random),
      ("http-buckets", .httpBuckets), ("buckets", .httpBuckets)]
    (fun other =>
      "unknown pad-mode " ++ quote other ++ ": use adaptive, random, or http-buckets") (dashed s)

/-- The empty name and `default`, in any case, are tested first and without the dashes. -/
def TlsClientProfile.fromStr (quote : Text → String) (s : Text) : Except String TlsClientProfile :=
  let t := Text.trim s
  if t.isEmpty || Text.eqIgnoreAsciiCase t "default".toList then .ok .default
  else
    fromNames [("chrome70", .chrome70), ("chrome-70", .chrome70), ("chrome-132", .chrome132),
        ("chrome132", .chrome132), ("chromium-132", .chrome132), ("firefox-136", .firefox136),
        ("firefox136", .firefox136), ("safari-18", .safari18), ("safari18", .safari18),
        ("webkit", .safari18), ("firefox65", .firefox65), ("firefox-65", .firefox65),
        ("firefox63", .firefox63), ("firefox-63", .firefox63), ("random", .randomized),
        ("randomized", .randomized), ("randomized-alpn", .randomizedAlpn),
        ("randomized-no-alpn", .randomizedNoAlpn)]
      (fun other => "unknown tls-profile / fingerprint " ++ quote other ++ ": use default, " ++
        "chrome-132, firefox-136, safari-18, random, chrome70, firefox65, firefox63, randomized-…")
      (Text.replaceChar '_' '-' (Text.toAsciiLowercase t))

/-- `TlsClientProfile::from_fingerprint_str`. -/
def TlsClientProfile.fromFingerprintStr (quote : Text → String) (s : Text) :
    Except String TlsClientProfile := TlsClientProfile.fromStr quote s

/-! White space around a name does not matter. -/

@[simp] theorem lowered_trim (s : Text) : lowered (Text.trim s) = lowered s := by
  rw [lowered, Text.trim_trim, lowered]

theorem TlsStack.fromStr_trim (quote : Text → String) (s : Text) :
    TlsStack.fromStr quote (Text.trim s) = TlsStack.fromStr quote s := by
  rw [TlsStack.fromStr, lowered_trim, TlsStack.fromStr]

/-! ## 2. Presets -/

/-- `StealthPreset`. -/
structure StealthPreset where
  tlsProfile : TlsClientProfile
  padMode : PadMode
  wsJitterMinMs : UInt8
  wsJitterMaxMs : UInt8
  decoyGets : Bool
  decoyMode : DecoyMode
  dummyIntervalSecs : UInt64
  idleDecoySecs : UInt64

def preset : StealthProfile → StealthPreset
  | .default =>
    { tlsProfile := .default, padMode := .adaptive, wsJitterMinMs := 0, wsJitterMaxMs := 0
      decoyGets := false, decoyMode := .simple, dummyIntervalSecs := 0, idleDecoySecs := 0 }
  | .balanced =>
    { tlsProfile := .chrome132, padMode := .adaptive, wsJitterMinMs := 5, wsJitterMaxMs := 15
      decoyGets := true, decoyMode := .browser, dummyIntervalSecs := 0, idleDecoySecs := 10 }
  | .aggressive =>
    { tlsProfile := .chrome132, padMode := .adaptive, wsJitterMinMs := 5, wsJitterMaxMs := 25
      decoyGets := true, decoyMode := .browser, dummyIntervalSecs := 45, idleDecoySecs := 10 }

def applyPresetWsJitter (pr : Option StealthPreset) (explicitMin explicitMax : UInt8) :
    UInt8 × UInt8 :=
  match pr with
  | some p =>
    if explicitMin = 0 ∧ explicitMax = 0 then (p.wsJitterMinMs, p.wsJitterMaxMs)
    else (explicitMin, explicitMax)
  | none => (explicitMin, explicitMax)

def mergeIdleDecoySecs (explicit : Option UInt64) (pr : Option StealthPreset) : UInt64 :=
  match explicit with
  | some n => n
  | none => (pr.map (·.idleDecoySecs)).getD 0

/-- `resolve_tls_client_profile`. -/
def resolveTlsClientProfile (quote : Text → String) (fingerprint cliOrJsonTls : Option Text)
    (stealth : Option StealthProfile) (inviteOrEmbedded : Option TlsClientProfile) :
    Except String TlsClientProfile :=
  match fingerprint.bind Text.nonBlank, cliOrJsonTls.bind Text.nonBlank, stealth with
  | some s, _, _ => TlsClientProfile.fromFingerprintStr quote s
  | none, some s, _ => TlsClientProfile.fromStr quote s
  | none, none, some p => .ok (preset p).tlsProfile
  | none, none, none => .ok (inviteOrEmbedded.getD .chrome132)

end BibaVpn.Client
