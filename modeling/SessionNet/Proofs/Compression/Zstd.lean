import SessionNet.Compression.Zstd.Frame
import SessionNet.Proofs.Bytes

/-!
# Frames hold what they were made from

The cap on the output is looked at after every block. It decides whether frames are read at all and
never what is read from them: output only grows, so a cap that has room for the whole of it is never
exceeded on the way, and a smaller one is exceeded at some block. This holds of every kind of block
and any number of frames. What the encoder writes are plain and repeated blocks, which read back one
by one.
-/

namespace SessionNet.Compression.Zstd

variable {α β : Type}

/-! ## Reading within a cap -/

/-- A reader that adds to `start` bytes of output. Every cap that has room for what comes out gives
the same, and no other cap gives anything. -/
def Caps (start : Nat) (size : α → Nat) (read : Nat → Option α) : Prop :=
  ∀ cap a, start ≤ cap → read cap = some a →
    start ≤ size a ∧ size a ≤ cap ∧ ∀ cap', size a ≤ cap' → read cap' = some a

/-- What has been read is there whatever the cap. -/
theorem Caps.of_some (size : α → Nat) (a : α) : Caps (size a) size fun _ => some a := by
  rintro cap b room found
  cases found
  exact ⟨Nat.le_refl _, room, fun _ _ => rfl⟩

/-- One reader after another, which only has to be right for what the first one can give. -/
theorem Caps.andThen {start : Nat} {size : α → Nat} {size' : β → Nat} {read : Nat → Option α}
    {next : Nat → α → Option β} (first : Caps start size read)
    (second : ∀ cap a, read cap = some a → Caps (size a) size' fun cap => next cap a) :
    Caps start size' fun cap => (read cap).bind (next cap) := by
  intro cap b room found
  obtain ⟨a, hread, hnext⟩ := Option.bind_eq_some_iff.1 found
  obtain ⟨grown, fits, others⟩ := first cap a room hread
  obtain ⟨grown', fits', others'⟩ := second cap a hread cap b fits hnext
  refine ⟨Nat.le_trans grown grown', fits', fun cap' room' => ?_⟩
  simp only [others cap' (Nat.le_trans grown' room'), Option.bind_some, others' cap' room']

/-- A check of what has been read keeps or refuses it. -/
theorem Caps.check {start : Nat} {size : β → Nat} {checked : Option β}
    (same : ∀ b ∈ checked, size b = start) : Caps start size fun _ => checked := by
  intro cap b room found
  rw [same b found]
  exact ⟨Nat.le_refl _, room, fun _ _ => found⟩

/-! ## Output grows -/

theorem BlockState.size_le_step? {tables : SequenceTables} {states : SequenceStates}
    {s s' : BlockState} {b b' : BackwardBits} (h : s.step? tables states b = some (s', b')) :
    s.out.size ≤ s'.out.size := by
  simp only [step?, Option.bind_eq_bind, Option.bind_eq_some_iff, Prod.exists] at h
  obtain ⟨_, _, _, _, _, _, _, _, _, _, _, _, literals, _, _, h⟩ := h
  split at h
  · cases h
  · cases h
    simp only [History.size_appendMatch, History.size_appendBytes]
    omega

theorem BlockState.size_le_run? {tables : SequenceTables} {limit count : Nat}
    {states : SequenceStates} {s s' : BlockState} {b : BackwardBits}
    (h : run? tables limit count states s b = some s') : s.out.size ≤ s'.out.size := by
  induction count generalizing states s b with
  | zero =>
      rw [run?] at h
      split at h
      · cases h
        exact Nat.le_refl _
      · cases h
  | succ count ih =>
      rw [run?] at h
      rcases hstep : s.step? tables states b with _ | ⟨next, b₁⟩
      · rw [hstep] at h
        cases h
      · rw [hstep] at h
        have grown := size_le_step? hstep
        simp only at h
        split at h
        · cases h
        · split at h
          · rename_i last
            subst last
            exact Nat.le_trans grown (ih h)
          · split at h
            · cases h
            · exact Nat.le_trans grown (ih h)

theorem BlockState.size_le_finish {limit : Nat} {tables? tables?' : Option SequenceTables}
    {s s' : BlockState} (h : runSection?.finish limit tables? s = some (tables?', s')) :
    s.out.size ≤ s'.out.size := by
  simp only [runSection?.finish] at h
  split at h
  · cases h
  · cases h
    simp

theorem BlockState.size_le_runSection? {before? tables? : Option SequenceTables} {limit : Nat}
    {s s' : BlockState} {input : Bytes}
    (h : s.runSection? before? limit input = some (tables?, s')) : s.out.size ≤ s'.out.size := by
  unfold runSection? at h
  obtain ⟨⟨count, rest⟩, -, h⟩ := Option.bind_eq_some_iff.1 h
  dsimp only at h
  split at h
  · split at h
    · exact size_le_finish h
    · cases h
  · obtain ⟨⟨modes, rest⟩, -, h⟩ := Option.bind_eq_some_iff.1 h
    dsimp only at h
    split at h
    · cases h
    · obtain ⟨⟨literalLength, rest⟩, -, h⟩ := Option.bind_eq_some_iff.1 h
      obtain ⟨⟨offset, rest⟩, -, h⟩ := Option.bind_eq_some_iff.1 h
      obtain ⟨⟨matchLength, rest⟩, -, h⟩ := Option.bind_eq_some_iff.1 h
      obtain ⟨b, -, h⟩ := Option.bind_eq_some_iff.1 h
      obtain ⟨⟨literalState, b⟩, -, h⟩ := Option.bind_eq_some_iff.1 h
      obtain ⟨⟨offsetState, b⟩, -, h⟩ := Option.bind_eq_some_iff.1 h
      obtain ⟨⟨matchState, b⟩, -, h⟩ := Option.bind_eq_some_iff.1 h
      obtain ⟨last, hrun, h⟩ := Option.bind_eq_some_iff.1 h
      exact Nat.le_trans (size_le_run? hrun) (size_le_finish h)

namespace FrameState

theorem size_le_runBlock? {limit : Nat} {s s' : FrameState} {header : BlockHeader} {body : Bytes}
    (h : s.runBlock? limit header body = some s') : s.out.size ≤ s'.out.size := by
  rw [runBlock?] at h
  split at h
  · cases h
  · cases hkind : header.kind with
    | plain =>
        rw [hkind] at h
        cases h
        simp
    | repeated =>
        rw [hkind] at h
        cases h
        simp
    | compressed =>
        simp only [hkind] at h
        split at h
        · cases h
          exact Nat.le_refl _
        · simp only [runCompressed?, Option.bind_eq_bind, Option.bind_eq_some_iff,
            Prod.exists] at h
          obtain ⟨_, -, _, block, hsection, h⟩ := h
          cases h
          exact BlockState.size_le_runSection? hsection

/-! ## Blocks and frames within a cap -/

theorem caps_readBlock? (limit : Nat) (s : FrameState) (input : Bytes) :
    Caps s.out.size (fun result => result.2.1.out.size) (s.readBlock? · limit input) := by
  rintro cap ⟨last, s', rest⟩ - h
  simp only [readBlock?, Option.bind_eq_bind, Option.bind_eq_some_iff, Prod.exists] at h ⊢
  obtain ⟨header, rest₁, hheader, body, rest₂, hbody, next, hnext, h⟩ := h
  split at h
  · cases h
  · rename_i fits
    cases h
    refine ⟨size_le_runBlock? hnext, Nat.le_of_not_lt fits, fun cap' room => ?_⟩
    exact ⟨header, rest₁, hheader, body, rest, hbody, s', hnext, if_neg (Nat.not_lt.2 room)⟩

theorem readBlocks?_eq (cap limit : Nat) (s : FrameState) (input : Bytes) :
    s.readBlocks? cap limit input =
      (s.readBlock? cap limit input).bind fun (last, s, rest) =>
        if last then some (s, rest) else s.readBlocks? cap limit rest := by
  rw [readBlocks?]
  split
  · rename_i hread
    rw [hread, Option.bind_none]
  · rename_i hread
    rw [hread, Option.bind_some]

theorem caps_readBlocks? (limit : Nat) (s : FrameState) (input : Bytes) :
    Caps s.out.size (fun result => result.1.out.size) (s.readBlocks? · limit input) := by
  -- every block takes some of the input
  induction hlength : input.length using Nat.strongRecOn generalizing s input with
  | ind n ih =>
    subst hlength
    simp only [readBlocks?_eq _ _ s]
    refine (caps_readBlock? limit s input).andThen ?_
    rintro cap ⟨last, next, rest⟩ hread
    cases last with
    | true => exact Caps.of_some (fun result => result.1.out.size) (next, rest)
    | false => exact ih rest.length (readBlock?_length hread) next rest rfl

end FrameState

theorem Caps.of_none {start : Nat} {size : α → Nat} : Caps start size fun _ => none := by
  intro cap a _ found
  cases found

/-- A checksum is looked at or not; the output stays what it is. -/
theorem eq_of_checked {out : History} {rest : Bytes} {hasChecksum : Bool}
    {sum? : Option (Nat × Bytes)} {differs : Nat × Bytes → Prop} [DecidablePred differs]
    {result : History × Bytes}
    (h : (if hasChecksum then
        sum?.bind fun sum => if differs sum then none else some (out, sum.2)
      else some (out, rest)) = some result) : result.1 = out := by
  split at h
  · obtain ⟨sum, -, h⟩ := Option.bind_eq_some_iff.1 h
    split at h
    · cases h
    · cases h
      rfl
  · cases h
    rfl

/-- Whatever size and checksum a frame says its content has, they are compared with what it is. -/
theorem caps_readFrame? (out : History) (input : Bytes) :
    Caps out.size (fun result => result.1.size) (readFrame? · out input) := by
  rcases hheader : FrameHeader.read? input with _ | ⟨header, rest⟩
  · simp only [readFrame?, hheader, Option.bind_eq_bind, Option.bind_none]
    exact Caps.of_none
  · simp only [readFrame?, hheader, Option.bind_eq_bind, Option.bind_some]
    let start : FrameState :=
      { out, frameStart := out.size, allowsVoidBlocks := header.allowsVoidBlocks }
    refine (start.caps_readBlocks? header.blockLimit rest).andThen ?_
    rintro cap ⟨s, rest'⟩ -
    refine Caps.check ?_
    intro result found
    simp only [Option.mem_def, Option.bind_none, Option.pure_def] at found
    split at found
    · split at found
      · cases found
      · rw [eq_of_checked found]
    · rw [eq_of_checked found]

theorem caps_readAnyFrame? (out : History) (input : Bytes) :
    Caps out.size (fun result => result.1.size) (readAnyFrame? · out input) := by
  rcases hnumber : input.readLittle? 4 with _ | ⟨number, rest⟩
  · simp only [readAnyFrame?, hnumber, Option.bind_eq_bind, Option.bind_none]
    exact Caps.of_none
  · simp only [readAnyFrame?, hnumber, Option.bind_eq_bind, Option.bind_some]
    by_cases hmagic : number = magic
    · simp only [hmagic, if_true]
      exact caps_readFrame? out rest
    · simp only [hmagic, if_false]
      refine Caps.check ?_
      intro result found
      rw [Option.mem_def] at found
      split at found
      · simp only [Option.bind_eq_some_iff, Prod.exists] at found
        obtain ⟨_, _, -, _, _, -, found⟩ := found
        cases found
        rfl
      · cases found

theorem readFrames?_eq (cap : Nat) (out : History) (input : Bytes) :
    readFrames? cap out input =
      (readAnyFrame? cap out input).bind fun (out, rest) =>
        if rest.isEmpty then some out
        else if rest.length < input.length then readFrames? cap out rest
        else none := by
  rw [readFrames?]
  split
  · rename_i hread
    rw [hread, Option.bind_none]
  · rename_i hread
    simp only [hread, Option.bind_some, dite_eq_ite]

theorem caps_readFrames? (out : History) (input : Bytes) :
    Caps out.size Array.size (readFrames? · out input) := by
  induction hlength : input.length using Nat.strongRecOn generalizing out input with
  | ind n ih =>
    subst hlength
    simp only [readFrames?_eq _ out]
    refine (caps_readAnyFrame? out input).andThen ?_
    rintro cap ⟨next, rest⟩ -
    simp only
    split
    · exact Caps.of_some Array.size next
    · split
      · rename_i hshorter
        exact ih rest.length hshorter next rest rfl
      · exact Caps.of_none

/-- The cap decides whether frames are read, and not what is read from them. -/
theorem caps_decode? (input : Bytes) : Caps 0 List.length (decode? · input) := by
  intro cap content _ found
  obtain ⟨out, hread, rfl⟩ := Option.map_eq_some_iff.1 found
  obtain ⟨-, fits, others⟩ := caps_readFrames? #[] input cap out (Nat.zero_le cap) hread
  rw [Array.length_toList]
  refine ⟨Nat.zero_le _, fits, fun cap' room => ?_⟩
  simp only [decode?, others cap' room, Option.map_some]

/-! ## Blocks that were written -/

theorem appendRun_eq (out : History) (byte : UInt8) (count : Nat) :
    out.appendRun byte count = out.appendBytes (List.replicate count byte) := by
  apply Array.toList_inj.1
  rw [History.toList_appendRun, History.toList_appendBytes]

theorem appendBytes_appendBytes (out : History) (front back : Bytes) :
    (out.appendBytes front).appendBytes back = out.appendBytes (front ++ back) :=
  (List.foldl_append).symm

theorem BlockHeader.read?_write {h : BlockHeader} (short : h.size ≤ maxBlockSize) (rest : Bytes) :
    read? (h.write ++ rest) = some (h, rest) := by
  obtain ⟨last, kind, size⟩ := h
  have hsize : size ≤ 131072 := short
  have hroom : Nat.pow 256 3 = 16777216 := rfl
  have hlast := last.toNat_le
  have hkind : kind.toNat ≤ 2 := by cases kind <;> decide
  have hfits : last.toNat + 2 * kind.toNat + 8 * size < Nat.pow 256 3 := by omega
  -- the three parts of the number come apart again
  have htop : (last.toNat + 2 * kind.toNat + 8 * size) / 8 = size := by omega
  have hmiddle : (last.toNat + 2 * kind.toNat + 8 * size) / 2 % 4 = kind.toNat := by omega
  have hlow : (last.toNat + 2 * kind.toNat + 8 * size) % 2 = last.toNat := by omega
  have hread : BlockKind.ofNat? kind.toNat = some kind := by cases kind <;> rfl
  have hflag : (last.toNat == 1) = last := by cases last <;> rfl
  simp only [read?, write, Bytes.readLittle?_littleEndian hfits, Option.bind_eq_bind,
    Option.bind_some, htop, hmiddle, hlow, hread, hflag, Option.pure_def]

namespace FrameState

theorem readBlock?_append {cap limit : Nat} {s s' : FrameState} {header : BlockHeader}
    {body : Bytes} (short : header.size ≤ maxBlockSize) (stored : body.length = header.storedSize)
    (run : s.runBlock? limit header body = some s') (room : s'.out.size ≤ cap) (rest : Bytes) :
    s.readBlock? cap limit (header.write ++ (body ++ rest)) = some (header.last, s', rest) := by
  simp only [readBlock?, BlockHeader.read?_write short, Bytes.takeExactly?_append stored, run,
    Option.bind_eq_bind, Option.bind_some, Nat.not_lt.2 room, if_false, Option.pure_def]

theorem runBlock?_plain {limit : Nat} {body : Bytes} (short : body.length ≤ limit)
    (s : FrameState) (last : Bool) :
    s.runBlock? limit ⟨last, .plain, body.length⟩ body =
      some { s with out := s.out.appendBytes body } :=
  if_neg (Nat.not_lt.2 short)

theorem runBlock?_repeated {limit count : Nat} (short : count ≤ limit) (s : FrameState)
    (last : Bool) (byte : UInt8) :
    s.runBlock? limit ⟨last, .repeated, count⟩ [byte] =
      some { s with out := s.out.appendBytes (List.replicate count byte) } := by
  rw [runBlock?, if_neg (Nat.not_lt.2 short), ← appendRun_eq]
  rfl

/-- A block reads back, whether it was written as it is or as a repeated byte. -/
theorem readBlock?_encodeBlock {cap : Nat} {s : FrameState} {block : Bytes}
    (short : block.length ≤ maxBlockSize) (room : s.out.size + block.length ≤ cap) (last : Bool)
    (rest : Bytes) :
    s.readBlock? cap maxBlockSize (encodeBlock last block ++ rest) =
      some (last, { s with out := s.out.appendBytes block }, rest) := by
  have hroom : (s.out.appendBytes block).size ≤ cap := by rwa [History.size_appendBytes]
  have plain := runBlock?_plain short s last
  cases block with
  | nil => exact readBlock?_append short rfl plain hroom rest
  | cons byte others =>
      rw [encodeBlock]
      split
      · rename_i hrun
        have hsame : List.replicate (byte :: others).length byte = byte :: others := by
          symm
          rw [List.eq_replicate_iff]
          simpa [isRun] using hrun
        have repeated := runBlock?_repeated short s last byte
        rw [hsame] at repeated
        rw [List.append_assoc]
        exact readBlock?_append short rfl repeated hroom rest
      · rw [List.append_assoc]
        exact readBlock?_append short rfl plain hroom rest

end FrameState

theorem encodeBlocksAfter_of_more {input : Bytes} (more : input.drop maxBlockSize ≠ [])
    (written : List Bytes) :
    encodeBlocksAfter written input =
      encodeBlocksAfter (encodeBlock false (input.take maxBlockSize) :: written)
        (input.drop maxBlockSize) := by
  rw [encodeBlocksAfter, dif_neg more]

/-- Blocks that are already written stay in front. -/
theorem encodeBlocksAfter_eq (written : List Bytes) (input : Bytes) :
    encodeBlocksAfter written input = written.reverse.flatten ++ encodeBlocksAfter [] input := by
  induction hlength : input.length using Nat.strongRecOn generalizing written input with
  | ind n ih =>
    subst hlength
    by_cases hend : input.drop maxBlockSize = []
    · rw [encodeBlocksAfter, dif_pos hend, encodeBlocksAfter, dif_pos hend]
      simp
    · have hshorter : (input.drop maxBlockSize).length < input.length := by
        have hpos : 0 < maxBlockSize := by decide
        rw [List.drop_eq_nil_iff] at hend
        rw [List.length_drop]
        omega
      rw [encodeBlocksAfter_of_more hend, encodeBlocksAfter_of_more hend [],
        ih _ hshorter _ _ rfl, ih _ hshorter [_] _ rfl]
      simp

theorem FrameState.readBlocks?_encodeBlocksAfter {cap : Nat} {s : FrameState} {input : Bytes}
    (room : s.out.size + input.length ≤ cap) (rest : Bytes) :
    s.readBlocks? cap maxBlockSize (encodeBlocksAfter [] input ++ rest) =
      some ({ s with out := s.out.appendBytes input }, rest) := by
  induction hlength : input.length using Nat.strongRecOn generalizing s input with
  | ind n ih =>
    subst hlength
    by_cases hend : input.drop maxBlockSize = []
    · have short : input.length ≤ maxBlockSize := List.drop_eq_nil_iff.1 hend
      rw [encodeBlocksAfter, dif_pos hend, List.reverse_singleton, List.flatten_singleton,
        readBlocks?_eq, readBlock?_encodeBlock short room]
      rfl
    · -- a whole block, and what is left of the input behind it
      have hpos : 0 < maxBlockSize := by decide
      have hlonger : maxBlockSize < input.length := by
        rwa [List.drop_eq_nil_iff, Nat.not_le] at hend
      have htake : (input.take maxBlockSize).length = maxBlockSize := by
        rw [List.length_take]
        omega
      have hdrop : (input.drop maxBlockSize).length = input.length - maxBlockSize :=
        List.length_drop
      have hfirst : s.out.size + (input.take maxBlockSize).length ≤ cap := by omega
      have hothers : (s.out.appendBytes (input.take maxBlockSize)).size +
          (input.drop maxBlockSize).length ≤ cap := by
        rw [History.size_appendBytes]
        omega
      rw [encodeBlocksAfter_of_more hend, encodeBlocksAfter_eq, List.reverse_singleton,
        List.flatten_singleton, List.append_assoc, readBlocks?_eq,
        readBlock?_encodeBlock (Nat.le_of_eq htake) hfirst]
      simp only [Option.bind_some, Bool.false_eq_true, if_false]
      rw [ih (input.drop maxBlockSize).length (by omega)
        (s := { s with out := s.out.appendBytes (input.take maxBlockSize) }) hothers rfl]
      rw [appendBytes_appendBytes, List.take_append_drop]

/-! ## Frames that were written -/

/-- The bytes behind the opening number of a frame that was written. -/
theorem FrameHeader.read?_written (rest : Bytes) :
    FrameHeader.read? (0 :: 0x38 :: rest) = some (⟨maxBlockSize, none, false⟩, rest) := by
  have hbyte (b : UInt8) (rest : Bytes) :
      Bytes.readLittle? 1 (b :: rest) = some (b.toNat, rest) := by
    simp [Bytes.readLittle?, Bytes.takeExactly?, Bytes.takeAfter?, Bytes.toNatLittle]
  have hnothing (rest : Bytes) : Bytes.readLittle? 0 rest = some (0, rest) := by
    simp [Bytes.readLittle?, Bytes.takeExactly?, Bytes.takeAfter?, Bytes.toNatLittle]
  have hwindow : windowOf 56 = maxBlockSize := by decide
  have hkept : ¬maxWindowSize < maxBlockSize := by decide
  simp [read?, hbyte, hnothing, contentSizeField, hwindow, hkept]

/-- A frame that was written reads back behind any output, if there is room for it. -/
theorem readAnyFrame?_encode {cap : Nat} {out : History} {input : Bytes}
    (room : out.size + input.length ≤ cap) (rest : Bytes) :
    readAnyFrame? cap out (encode input ++ rest) = some (out.appendBytes input, rest) := by
  have hnumber := Bytes.readLittle?_littleEndian (show magic < Nat.pow 256 4 by decide)
    (0 :: 0x38 :: (encodeBlocksAfter [] input ++ rest))
  let start : FrameState := { out, frameStart := out.size, allowsVoidBlocks := true }
  have hblocks := start.readBlocks?_encodeBlocksAfter room rest
  have hbytes : encode input ++ rest =
      Bytes.littleEndian 4 magic ++ (0 :: 0x38 :: (encodeBlocksAfter [] input ++ rest)) := by
    simp [encode, frameHeader]
  have hlimit : FrameHeader.blockLimit ⟨maxBlockSize, none, false⟩ = maxBlockSize := rfl
  have hvoid : FrameHeader.allowsVoidBlocks ⟨maxBlockSize, none, false⟩ = true := rfl
  rw [hbytes, readAnyFrame?, hnumber]
  simp only [readFrame?, FrameHeader.read?_written, hlimit, hvoid, hblocks, start,
    Option.bind_eq_bind, Option.bind_some, if_true, Bool.false_eq_true, if_false,
    Option.pure_def]

theorem length_encode_pos (input : Bytes) : 0 < (encode input).length := by
  rw [encode, List.length_append]
  exact Nat.add_pos_left (by decide) _

/-- Frames behind each other hold what they were made from behind each other. -/
theorem readFrames?_encode {cap : Nat} {out : History} {inputs : List Bytes}
    (nonempty : inputs ≠ []) (room : out.size + inputs.flatten.length ≤ cap) :
    readFrames? cap out (inputs.flatMap encode) = some (out.appendBytes inputs.flatten) := by
  induction inputs generalizing out with
  | nil => exact absurd rfl nonempty
  | cons input others ih =>
      rw [List.flatten_cons, List.length_append] at room
      rw [List.flatMap_cons, readFrames?_eq, readAnyFrame?_encode (by omega), Option.bind_some]
      cases others with
      | nil => simp
      | cons next others =>
          have hroom : (out.appendBytes input).size + (next :: others).flatten.length ≤ cap := by
            rw [History.size_appendBytes]
            omega
          have hread := ih (List.cons_ne_nil next others) hroom
          have hshorter := Nat.lt_add_of_pos_left
            (n := ((next :: others).flatMap encode).length) (length_encode_pos input)
          have hmore : ((next :: others).flatMap encode).isEmpty = false := by
            have hpos := length_encode_pos next
            rw [List.isEmpty_eq_false_iff, ← List.length_pos_iff, List.flatMap_cons,
              List.length_append]
            omega
          simp only [hmore, Bool.false_eq_true, if_false, List.length_append, hshorter, if_true,
            hread, appendBytes_appendBytes]
          rfl

/-- What one or more inputs are written as is read as these inputs, if there is room for them. -/
theorem decode?_encode {cap : Nat} {inputs : List Bytes} (nonempty : inputs ≠ [])
    (room : inputs.flatten.length ≤ cap) :
    decode? cap (inputs.flatMap encode) = some inputs.flatten := by
  have hread : readFrames? cap #[] (inputs.flatMap encode) = _ :=
    readFrames?_encode nonempty (by simpa using room)
  rw [decode?, hread, Option.map_some, History.toList_appendBytes]
  rfl

end SessionNet.Compression.Zstd
