import MlogHighlight.Text.Basic

/-!
# Decoding UTF-8

Octets are read one at a time. A lead octet says how many continuation octets follow and what the
first of them may be, which excludes overlong forms, surrogates and numbers beyond `U+10FFFF`.
Decoding stops at the first octet that does not fit, and says which octets were at fault.
-/

namespace MlogHighlight.Utf8

/-- Why octets cannot be decoded. -/
inductive Reason where
  | invalidStart
  | invalidContinuation
  | unexpectedEnd
deriving DecidableEq, Repr

/-- The octets at positions `start` up to `stop`, the first of them `octet`, encode no character. -/
structure DecodeError where
  start : Nat
  stop : Nat
  octet : UInt8
  reason : Reason
deriving DecidableEq, Repr

/-- The wording of a reason. -/
def Reason.message : Reason → Text
  | .invalidStart => "invalid start byte"
  | .invalidContinuation => "invalid continuation byte"
  | .unexpectedEnd => "unexpected end of data"

/-- The wording of an error; a single octet is shown, several are named by their positions. -/
def DecodeError.message (e : DecodeError) : Text :=
  let subject : Text :=
    if e.stop = e.start + 1 then
      "byte 0x" ++ Nat.toDigits 16 e.octet.toNat ++ " in position " ++ Text.ofNat e.start
    else
      "bytes in position " ++ Text.ofNat e.start ++ "-" ++ Text.ofNat (e.stop - 1)
  "'utf-8' codec can't decode " ++ subject ++ ": " ++ e.reason.message

/-- A character whose lead octet has been read: where it starts, how many continuation octets are
missing, the bits so far, and the bounds of the next octet. -/
structure Pending where
  start : Nat
  lead : UInt8
  missing : Nat
  bits : Nat
  lowest : UInt8
  highest : UInt8

/-- What a lead octet beyond the ASCII range announces. -/
def Pending.ofLead? (start : Nat) (lead : UInt8) : Option Pending :=
  let bits := lead.toNat
  if lead < 0xC2 then none
  else if lead < 0xE0 then some ⟨start, lead, 1, bits - 0xC0, 0x80, 0xBF⟩
  else if lead < 0xF0 then
    some ⟨start, lead, 2, bits - 0xE0, if lead = 0xE0 then 0xA0 else 0x80,
      if lead = 0xED then 0x9F else 0xBF⟩
  else if lead < 0xF5 then
    some ⟨start, lead, 3, bits - 0xF0, if lead = 0xF0 then 0x90 else 0x80,
      if lead = 0xF4 then 0x8F else 0xBF⟩
  else none

/-- The pending character after one more continuation octet. -/
def Pending.push (p : Pending) (octet : UInt8) : Pending :=
  { p with
    missing := p.missing - 1
    bits := p.bits * 64 + (octet.toNat - 0x80)
    lowest := 0x80
    highest := 0xBF }

/-- Decodes from position `pos` on, where a character may be pending. -/
def decodeFrom : Nat → Option Pending → List UInt8 → Except DecodeError Text
  | _, none, [] => .ok []
  | pos, some p, [] => .error ⟨p.start, pos, p.lead, .unexpectedEnd⟩
  | pos, none, octet :: rest =>
    if octet < 0x80 then
      (decodeFrom (pos + 1) none rest).map (Char.ofNat octet.toNat :: ·)
    else match Pending.ofLead? pos octet with
      | some p => decodeFrom (pos + 1) (some p) rest
      | none => .error ⟨pos, pos + 1, octet, .invalidStart⟩
  | pos, some p, octet :: rest =>
    if p.lowest ≤ octet && octet ≤ p.highest then
      let p := p.push octet
      if p.missing = 0 then
        (decodeFrom (pos + 1) none rest).map (Char.ofNat p.bits :: ·)
      else
        decodeFrom (pos + 1) (some p) rest
    else .error ⟨p.start, pos, p.lead, .invalidContinuation⟩

/-- The text that octets encode. -/
def decode (octets : List UInt8) : Except DecodeError Text := decodeFrom 0 none octets

end MlogHighlight.Utf8
