import SessionNet.Frame.Layout

/-!
# Datagrams

A datagram is a four-byte conveyance id and one regular frame that fills the rest of it.
-/

namespace SessionNet

/-- A datagram taken apart. -/
structure Datagram where
  conveyance : UInt32
  message : WireMessage
  deriving DecidableEq, Repr

namespace Datagram

def toBytes (d : Datagram) : Bytes :=
  Bytes.bigEndian 4 d.conveyance.toNat ++ Frame.regular d.message.header d.message.payload

/-- Take a datagram apart. -/
def ofBytes (bytes : Bytes) : Except NetError Datagram :=
  match bytes with
  | c0 :: c1 :: c2 :: c3 :: flags :: l0 :: l1 :: body =>
    match Header.ofByte flags with
    | .error e => .error e
    | .ok header =>
      if header.bigSized then .error (.framing .bigSizedDatagram)
      else
        let declared := Bytes.toNatBig [l0, l1]
        if declared ≠ body.length then .error (.lengthMismatch declared body.length)
        else .ok ⟨UInt32.ofNat (Bytes.toNatBig [c0, c1, c2, c3]), ⟨header, body⟩⟩
  | _ => .error (.framing .shortDatagram)

end Datagram

end SessionNet
