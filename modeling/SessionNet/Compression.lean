import SessionNet.Compression.Lz4
import SessionNet.Compression.Zstd.Frame
import SessionNet.Error
import SessionNet.Frame.Layout
import SessionNet.Text.Keyed

/-!
# Compression

The two ways to compress a payload. Whatever the input, decompression either fails or yields at most
the largest message.
-/

namespace SessionNet

/-- A way to compress payloads. -/
structure Compressor where
  compress : Bytes → Except NetError Bytes
  decompress : Bytes → Except NetError Bytes

/-- What is collected from a stream that is read in portions, one entry for each read: some bytes,
none at the end, or a failure. The total is looked at after every read, and beyond the cap nothing
is kept. Whoever reads a stream so gets what `Zstd.decode?` gives within the same cap, which expands
one block after the other and gives up as early. -/
def Compression.collect? (cap : Nat) (out : Bytes) : (reads : List (Option Bytes)) → Option Bytes
  | [] => none
  | none :: _ => none
  | some [] :: _ => some out
  | some (b :: bs) :: reads =>
    if cap < (out ++ b :: bs).length then none else collect? cap (out ++ b :: bs) reads

/-- The compression formats. -/
inductive CompressionKind where
  | lz4
  | zstd
  deriving DecidableEq, Repr

namespace CompressionKind

/-- The name used in configuration files. -/
def key : CompressionKind → String
  | .lz4 => "lz4"
  | .zstd => "zstd"

instance : Keyed CompressionKind := ⟨[.lz4, .zstd], key⟩

/-- Compress a payload. How small it becomes is left to the compressor by the formats. `Zstd.encode`
writes a block as it is or as one repeated byte, never with matches or entropy codes, so other
compressors of the format get most payloads smaller, and some payload that fits into a datagram when
they have compressed it is refused here as too large. What is restored does not depend on that:
`decompress` reads blocks of every type, whoever wrote them. -/
def compress (kind : CompressionKind) (payload : Bytes) : Bytes :=
  match kind with
  | .lz4 => Compression.Lz4.encode payload
  | .zstd => Compression.Zstd.encode payload

/-- Restore a payload of at most the largest message. -/
def decompress (kind : CompressionKind) (compressed : Bytes) : Except NetError Bytes :=
  let restored? :=
    match kind with
    | .lz4 => Compression.Lz4.decode? maxMessageSize compressed
    | .zstd => Compression.Zstd.decode? maxMessageSize compressed
  match restored? with
  | some payload => .ok payload
  | none => .error .decompression

/-- The format as a collaborator of the codec. -/
def compressor (kind : CompressionKind) : Compressor :=
  ⟨fun payload => .ok (kind.compress payload), kind.decompress⟩

end CompressionKind

end SessionNet
