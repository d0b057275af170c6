import SessionNet.Compression
import SessionNet.Proofs.Compression.Lz4
import SessionNet.Proofs.Compression.Zstd

/-!
# Whole or refused

Compressed bytes stand for some content, whoever compressed it. What is no larger than the largest
message is restored, all of it, and anything larger is refused. One of the formats says the size
before anything is expanded; the other one is measured while it is read, and it makes no difference
in which portions.
-/

namespace SessionNet

namespace Compression

/-! ## Blocks with a size in front -/

theorem Lz4.length_le_of_decodeBlock? {limit : Nat} {block content : Bytes}
    (h : decodeBlock? limit block = some content) : content.length ≤ limit := by
  rw [decodeBlock?] at h
  split at h
  · cases h
  · obtain ⟨out, hexpand, rfl⟩ := Option.map_eq_some_iff.1 h
    obtain ⟨-, hsize⟩ := expand?_of_le (Nat.le_refl limit) (Nat.zero_le _) hexpand
    rwa [Array.length_toList]

/-- The size in front is within the cap, and the block expands to no more than that size. -/
theorem Lz4.decode?_eq_some_iff {cap : Nat} {input content : Bytes} :
    decode? cap input = some content ↔
      ∃ claimed block, input.readLittle? 4 = some (claimed, block) ∧ claimed ≤ cap ∧
        decodeBlock? claimed block = some content := by
  rw [decode?]
  constructor
  · intro h
    split at h
    · cases h
    · rename_i claimed block hread
      split at h
      · cases h
      · rename_i hcap
        exact ⟨claimed, block, hread, Nat.le_of_not_lt hcap, h⟩
  · rintro ⟨claimed, block, hread, hcap, hblock⟩
    simp only [hread, Nat.not_lt.2 hcap, if_false, hblock]

/-! ## Reading in portions -/

theorem collect?_append {cap : Nat} {out : Bytes} {portions : List Bytes}
    (fits : out.length ≤ cap) (nonempty : ∀ portion ∈ portions, portion ≠ [])
    (reads : List (Option Bytes)) :
    collect? cap out (portions.map some ++ reads) =
      if (out ++ portions.flatten).length ≤ cap then collect? cap (out ++ portions.flatten) reads
      else none := by
  induction portions generalizing out with
  | nil => simp [fits]
  | cons portion portions ih =>
    obtain ⟨b, bs, rfl⟩ := List.exists_cons_of_ne_nil (nonempty portion List.mem_cons_self)
    have others := fun p hmem => nonempty p (List.mem_cons_of_mem _ hmem)
    rw [List.map_cons, List.cons_append, collect?, List.flatten_cons, ← List.append_assoc]
    by_cases hover : cap < (out ++ b :: bs).length
    · rw [if_pos hover, if_neg]
      rw [List.length_append]
      omega
    · rw [if_neg hover, ih (Nat.le_of_not_lt hover) others]

end Compression

namespace CompressionKind

/-- What compressed bytes are restored to, within a cap. -/
def restore? (kind : CompressionKind) (cap : Nat) (compressed : Bytes) : Option Bytes :=
  match kind with
  | .lz4 => Compression.Lz4.decode? cap compressed
  | .zstd => Compression.Zstd.decode? cap compressed

theorem decompress_eq (kind : CompressionKind) (compressed : Bytes) :
    kind.decompress compressed =
      (kind.restore? maxMessageSize compressed).elim (.error .decompression) .ok := by
  cases hrestored : kind.restore? maxMessageSize compressed <;> cases kind <;>
    · simp only [restore?] at hrestored
      simp [decompress, hrestored]

/-- Bytes that stand for `content`, no matter who compressed it: it comes out of them if there is
room for it and nothing more. -/
def Expands (kind : CompressionKind) (compressed content : Bytes) : Prop :=
  kind.restore? content.length compressed = some content

/-- What is restored respects the cap, and with more room it is the same. -/
theorem restore?_of_le {kind : CompressionKind} {cap cap' : Nat} {compressed content : Bytes}
    (h : kind.restore? cap compressed = some content) (larger : cap ≤ cap') :
    content.length ≤ cap ∧ kind.restore? cap' compressed = some content := by
  cases kind with
  | lz4 =>
    obtain ⟨claimed, block, hread, hcap, hblock⟩ := Compression.Lz4.decode?_eq_some_iff.1 h
    refine ⟨Nat.le_trans (Compression.Lz4.length_le_of_decodeBlock? hblock) hcap, ?_⟩
    exact Compression.Lz4.decode?_eq_some_iff.2
      ⟨claimed, block, hread, Nat.le_trans hcap larger, hblock⟩
  | zstd =>
    obtain ⟨-, fits, others⟩ :=
      Compression.Zstd.caps_decode? compressed cap content (Nat.zero_le cap) h
    exact ⟨fits, others cap' (Nat.le_trans fits larger)⟩

/-- Content is restored whole up to the cap, and above that not at all. -/
theorem Expands.restore?_eq {kind : CompressionKind} {compressed content : Bytes}
    (expands : kind.Expands compressed content) (cap : Nat) :
    kind.restore? cap compressed = if content.length ≤ cap then some content else none := by
  by_cases hfits : content.length ≤ cap
  · rw [(restore?_of_le expands hfits).2, if_pos hfits]
  · rw [if_neg hfits]
    cases hrestored : kind.restore? cap compressed with
    | none => rfl
    | some less =>
      -- with more room it would be the content, which does not fit
      obtain ⟨hless, hmore⟩ := restore?_of_le hrestored (Nat.le_of_not_le hfits)
      rw [expands, Option.some.injEq] at hmore
      rw [hmore] at hfits
      exact absurd hless hfits

theorem Expands.decompress_eq {kind : CompressionKind} {compressed content : Bytes}
    (expands : kind.Expands compressed content) :
    kind.decompress compressed =
      if content.length ≤ maxMessageSize then .ok content else .error .decompression := by
  rw [CompressionKind.decompress_eq, expands.restore?_eq]
  by_cases hfits : content.length ≤ maxMessageSize
  · rw [if_pos hfits, if_pos hfits, Option.elim_some]
  · rw [if_neg hfits, if_neg hfits, Option.elim_none]

/-- Any number of frames stand for what they were made from, one after the other. -/
theorem expands_frames {contents : List Bytes} (nonempty : contents ≠ []) :
    zstd.Expands (contents.flatMap zstd.compress) contents.flatten :=
  Compression.Zstd.decode?_encode nonempty (Nat.le_refl _)

theorem expands_compress (kind : CompressionKind) {content : Bytes}
    (short : content.length < Nat.pow 2 32) : kind.Expands (kind.compress content) content := by
  cases kind with
  | lz4 => exact Compression.Lz4.decode?_encode (Nat.le_refl _) short
  | zstd =>
    have frame := expands_frames (List.cons_ne_nil content [])
    rwa [List.flatMap_singleton, List.flatten_singleton] at frame

/-- Content too long for its size to be told is refused like any other that is too long. -/
theorem decompress_compress (kind : CompressionKind) (content : Bytes) :
    kind.decompress (kind.compress content) =
      if content.length ≤ maxMessageSize then .ok content else .error .decompression := by
  by_cases short : content.length < Nat.pow 2 32
  · exact (kind.expands_compress short).decompress_eq
  · have hlarge : maxMessageSize < content.length :=
      Nat.lt_of_lt_of_le (by decide) (Nat.le_of_not_lt short)
    rw [if_neg (Nat.not_le.2 hlarge)]
    cases kind with
    | lz4 =>
      rw [CompressionKind.decompress_eq, restore?, compress,
        Compression.Lz4.decode?_encode_of_lt hlarge, Option.elim_none]
    | zstd =>
      have frame := expands_frames (List.cons_ne_nil content [])
      rw [List.flatMap_singleton, List.flatten_singleton] at frame
      rw [frame.decompress_eq, if_neg (Nat.not_le.2 hlarge)]

/-- The reads of a stream, however it is divided: the content and then the end, or, where the
compressed bytes stand for nothing, some bytes and then a failure. -/
def Delivers (kind : CompressionKind) (compressed : Bytes) (reads : List (Option Bytes)) : Prop :=
  ∃ portions : List Bytes, (∀ portion ∈ portions, portion ≠ []) ∧
    (reads = portions.map some ++ [some []] ∧ kind.Expands compressed portions.flatten ∨
      reads = portions.map some ++ [none] ∧ ∀ content, ¬kind.Expands compressed content)

/-- Frames say nothing about how large their content may be, so whatever is restored from them is
all they stand for. -/
theorem expands_of_restore? {cap : Nat} {compressed content : Bytes}
    (h : zstd.restore? cap compressed = some content) : zstd.Expands compressed content := by
  obtain ⟨-, -, others⟩ :=
    Compression.Zstd.caps_decode? compressed cap content (Nat.zero_le cap) h
  exact others content.length (Nat.le_refl _)

/-- To measure the total after every read is to measure the content. -/
theorem Delivers.collect?_eq {compressed : Bytes} {reads : List (Option Bytes)}
    (delivers : zstd.Delivers compressed reads) (cap : Nat) :
    Compression.collect? cap [] reads = zstd.restore? cap compressed := by
  obtain ⟨portions, nonempty, ⟨rfl, expands⟩ | ⟨rfl, nothing⟩⟩ := delivers
  · rw [Compression.collect?_append (Nat.zero_le cap) nonempty, List.nil_append,
      expands.restore?_eq]
    rfl
  · rw [Compression.collect?_append (Nat.zero_le cap) nonempty, Compression.collect?, ite_self]
    cases hrestored : zstd.restore? cap compressed with
    | none => rfl
    | some content => exact absurd (expands_of_restore? hrestored) (nothing content)

/-- Decompression gives all or nothing, for any input. What stands for some content, made by
`compress` or by another compressor, is restored if the content is no larger than the largest
message and refused otherwise. Nothing larger ever comes out, nor less than there is with more room,
nor for a size in front more than that size; and a stream may be read in any portions. -/
theorem decompress_whole_or_refused (kind : CompressionKind) :
    (∀ content, kind.decompress (kind.compress content) =
      if content.length ≤ maxMessageSize then .ok content else .error .decompression) ∧
    (∀ content, content.length < Nat.pow 2 32 → kind.Expands (kind.compress content) content) ∧
    (∀ compressed content, kind.Expands compressed content →
      kind.decompress compressed =
        if content.length ≤ maxMessageSize then .ok content else .error .decompression) ∧
    (∀ compressed, kind.decompress compressed = .error .decompression ∨
      ∃ content, kind.decompress compressed = .ok content ∧ content.length ≤ maxMessageSize ∧
        (∀ cap, maxMessageSize ≤ cap → kind.restore? cap compressed = some content) ∧
        (kind = .lz4 → ∃ claimed block,
          compressed.readLittle? 4 = some (claimed, block) ∧ content.length ≤ claimed)) ∧
    (kind = .zstd → ∀ compressed reads, kind.Delivers compressed reads →
      kind.decompress compressed =
        (Compression.collect? maxMessageSize [] reads).elim (.error .decompression) .ok) := by
  refine ⟨kind.decompress_compress, fun content => kind.expands_compress,
    fun compressed content => Expands.decompress_eq, fun compressed => ?_, ?_⟩
  · rw [kind.decompress_eq]
    cases hrestored : kind.restore? maxMessageSize compressed with
    | none => exact .inl rfl
    | some content =>
      refine .inr ⟨content, rfl, (restore?_of_le hrestored (Nat.le_refl _)).1,
        fun cap larger => (restore?_of_le hrestored larger).2, ?_⟩
      rintro rfl
      obtain ⟨claimed, block, hread, -, hblock⟩ :=
        Compression.Lz4.decode?_eq_some_iff.1 hrestored
      exact ⟨claimed, block, hread, Compression.Lz4.length_le_of_decodeBlock? hblock⟩
  · rintro rfl compressed reads delivers
    rw [delivers.collect?_eq, decompress_eq]

/-- Two frames that arrive as three portions. -/
theorem decompress_whole_or_refused_frames :
    zstd.Delivers (zstd.compress [1, 1, 1] ++ zstd.compress [2, 3])
      [some [1, 1], some [1, 2], some [3], some []] ∧
    zstd.decompress (zstd.compress [1, 1, 1] ++ zstd.compress [2, 3]) = .ok [1, 1, 1, 2, 3] := by
  have expands : zstd.Expands (zstd.compress [1, 1, 1] ++ zstd.compress [2, 3])
      [1, 1, 1, 2, 3] := by
    simpa using expands_frames (List.cons_ne_nil [1, 1, 1] [[2, 3]])
  have delivers : zstd.Delivers (zstd.compress [1, 1, 1] ++ zstd.compress [2, 3])
      [some [1, 1], some [1, 2], some [3], some []] :=
    ⟨[[1, 1], [1, 2], [3]], by simp, .inl ⟨rfl, expands⟩⟩
  obtain ⟨-, -, -, -, portions⟩ := decompress_whole_or_refused .zstd
  exact ⟨delivers, portions rfl _ _ delivers⟩

end CompressionKind

end SessionNet
