import Acceptance.Proofs.Document.Progress

/-!
# Texts and streams

A text is cut into lines at its characters, a stream at its bytes. In UTF-8 the byte of a line feed or of a
carriage return belongs to no other character, so both cuts fall into the same places
(`Stream.lines_of_decode`). Where the bytes are no text, or the stream fails, it delivers the complete lines
before the first one that is not valid or not complete (`Stream.lines_of_breaks`).
-/

set_option autoImplicit false

namespace Acceptance

/-! ## Cutting -/

section Cutting

variable {α : Type} {feed ret : α} {cs rest piece : List α} {complete : List (List α)}

/-- What a sequence is cut into: pieces with a separator behind each of them, and what is left. -/
structure Splits (feed : α) (cs : List α) (complete : List (List α)) (rest : List α) : Prop where
  eq_append : cs = complete.flatMap (· ++ [feed]) ++ rest
  notMem_complete : ∀ piece ∈ complete, feed ∉ piece
  notMem_rest : feed ∉ rest

/-- Anything can be split into complete lines and what is left behind the last of them. -/
theorem exists_splits (feed : α) (cs : List α) : ∃ complete rest, Splits feed cs complete rest := by
  classical
  induction cs with
  | nil => exact ⟨[], [], rfl, by simp, by simp⟩
  | cons c cs ih =>
    obtain ⟨complete, rest, rfl, hcomplete, hrest⟩ := ih
    by_cases hc : c = feed
    · subst hc
      refine ⟨[] :: complete, rest, rfl, ?_, hrest⟩
      exact List.forall_mem_cons.mpr ⟨by simp, hcomplete⟩
    · have hne : feed ≠ c := fun h => hc h.symm
      cases complete with
      | nil => exact ⟨[], c :: rest, rfl, by simp, by simp [hne, hrest]⟩
      | cons piece complete =>
        obtain ⟨hpiece, hpieces⟩ := List.forall_mem_cons.mp hcomplete
        refine ⟨(c :: piece) :: complete, rest, rfl, ?_, hrest⟩
        exact List.forall_mem_cons.mpr ⟨by simp [hne, hpiece], hpieces⟩

variable [BEq α] [LawfulBEq α]

/-- Without a line feed there is one piece. -/
theorem cutAt_of_notMem (h : feed ∉ cs) : Text.cutAt (· == feed) cs = [cs] := by
  rw [Text.cutAt_eq_splitOnP]
  exact List.splitOn_eq_singleton h

/-- A piece ends at the first line feed. -/
theorem cutAt_append_cons (h : feed ∉ piece) :
    Text.cutAt (· == feed) (piece ++ feed :: cs) = piece :: Text.cutAt (· == feed) cs := by
  simp only [Text.cutAt_eq_splitOnP]
  exact List.splitOn_append_cons_self_of_not_mem h cs

/-- Cutting at line feeds gives the complete lines, and then what is left. -/
theorem Splits.cutAt_eq (h : Splits feed cs complete rest) :
    Text.cutAt (· == feed) cs = complete ++ [rest] := by
  obtain ⟨rfl, hcomplete, hrest⟩ := h
  induction complete with
  | nil => exact cutAt_of_notMem hrest
  | cons piece complete ih =>
    obtain ⟨hpiece, hpieces⟩ := List.forall_mem_cons.mp hcomplete
    have hassoc : (piece :: complete).flatMap (· ++ [feed]) ++ rest =
        piece ++ feed :: (complete.flatMap (· ++ [feed]) ++ rest) := by simp
    rw [hassoc, cutAt_append_cons hpiece, ih hpieces]
    rfl

/-- A complete line without the carriage return at its end. -/
def withoutReturn (ret : α) (line : List α) : List α :=
  match line.getLast? with
  | some c => if c == ret then line.dropLast else line
  | none => line

/-- A carriage return at the end is taken off. -/
theorem withoutReturn_concat (line : List α) : withoutReturn ret (line ++ [ret]) = line := by
  simp [withoutReturn]

/-- A line that does not end in a carriage return stays as it is. -/
theorem withoutReturn_of_ne {line : List α} (h : line.getLast? ≠ some ret) :
    withoutReturn ret line = line := by
  unfold withoutReturn
  cases hlast : line.getLast? with
  | none => rfl
  | some c =>
    rw [hlast] at h
    have hneg : ¬ (c == ret) = true := by simpa using fun heq : c = ret => h (by rw [heq])
    dsimp only
    rw [if_neg hneg]

omit [LawfulBEq α] in
/-- Taking a carriage return off leaves a beginning of the line. -/
theorem withoutReturn_isPrefix (line : List α) : withoutReturn ret line <+: line := by
  unfold withoutReturn
  split
  · split
    · exact List.dropLast_prefix _
    · exact List.prefix_rfl
  · exact List.prefix_rfl

/-- The complete lines are those of the split, without their carriage returns. -/
theorem Splits.completeLines_eq (h : Splits feed cs complete rest) :
    completeLines feed ret cs = (complete.map (withoutReturn ret), rest) := by
  unfold completeLines
  dsimp only
  rw [h.cutAt_eq, List.dropLast_concat, List.getLastD_concat]
  rfl

end Cutting

/-! ## Lines of a text -/

/-- The lines of a text are the complete ones, and what is left if there is anything. -/
theorem linesOf_of_splits {text : String} {complete : List (List Char)} {rest : List Char}
    (h : Splits '\n' text.toList complete rest) :
    linesOf text =
      (complete.map (withoutReturn '\r') ++ if rest.isEmpty then [] else [rest]).map String.ofList := by
  unfold linesOf
  rw [h.completeLines_eq]

/-- A complete line as it is read from a text. -/
def asRead (line : String) : String :=
  String.ofList (withoutReturn '\r' line.toList)

/-- A line that does not end in a carriage return is read as it is. -/
theorem asRead_of_ne {line : String} (h : line.toList.getLast? ≠ some '\r') : asRead line = line := by
  unfold asRead
  rw [withoutReturn_of_ne h, String.ofList_toList]

/-- Lines that are put together come back, without the carriage returns at their ends. -/
theorem linesOf_join {lines : List String} (h : ∀ line ∈ lines, '\n' ∉ line.toList) :
    linesOf (String.join (lines.map (· ++ "\n"))) = lines.map asRead := by
  have hsplits : Splits '\n' (String.join (lines.map (· ++ "\n"))).toList (lines.map String.toList) [] := by
    refine ⟨?_, ?_, List.not_mem_nil⟩
    · rw [String.toList_join, List.flatMap_map, List.flatMap_map, List.append_nil]
      simp
    · intro piece hpiece
      obtain ⟨line, hline, rfl⟩ := List.mem_map.mp hpiece
      exact h line hline
  rw [linesOf_of_splits hsplits, List.map_append, List.map_map, List.map_map]
  exact List.append_nil _

/-- **Text put behind a complete line** is more lines. -/
theorem linesOf_append {first : String} (h : first = "" ∨ first.toList.getLast? = some '\n')
    (second : String) : linesOf (first ++ second) = linesOf first ++ linesOf second := by
  obtain ⟨complete, rest, hfirst⟩ := exists_splits '\n' first.toList
  obtain ⟨complete', rest', hsecond⟩ := exists_splits '\n' second.toList
  have hrest : rest = [] := by
    refine List.getLast?_eq_none_iff.mp (Option.eq_none_iff_forall_ne_some.mpr fun c hlast => ?_)
    have hends : first.toList.getLast? = some c := by
      rw [hfirst.eq_append, List.getLast?_append, hlast]
      rfl
    rcases h with rfl | hfeed
    · cases hends
    · obtain rfl : '\n' = c := Option.some.inj (hfeed.symm.trans hends)
      exact hfirst.notMem_rest (List.mem_of_getLast? hlast)
  subst hrest
  have hboth : Splits '\n' (first ++ second).toList (complete ++ complete') rest' := by
    refine ⟨?_, fun piece hpiece => ?_, hsecond.notMem_rest⟩
    · rw [String.toList_append, hfirst.eq_append, hsecond.eq_append, List.flatMap_append, List.append_nil,
        List.append_assoc]
    · rcases List.mem_append.mp hpiece with hpiece | hpiece
      · exact hfirst.notMem_complete piece hpiece
      · exact hsecond.notMem_complete piece hpiece
  rw [linesOf_of_splits hfirst, linesOf_of_splits hsecond, linesOf_of_splits hboth, ← List.map_append]
  simp

/-- **Lines can be written into any text**, behind a complete line. -/
theorem linesOf_lines {first : String} {lines : List String}
    (hfirst : first = "" ∨ first.toList.getLast? = some '\n') (hlines : ∀ line ∈ lines, '\n' ∉ line.toList)
    (last : String) :
    linesOf (first ++ (String.join (lines.map (· ++ "\n")) ++ last)) =
      linesOf first ++ lines.map asRead ++ linesOf last := by
  have hends : String.join (lines.map (· ++ "\n")) = "" ∨
      (String.join (lines.map (· ++ "\n"))).toList.getLast? = some '\n' := by
    rcases List.eq_nil_or_concat lines with rfl | ⟨before, line, rfl⟩
    · exact .inl rfl
    · refine .inr ?_
      rw [List.concat_eq_append, List.map_append, String.toList_join, List.flatMap_append, List.map_singleton,
        List.flatMap_singleton, String.toList_append, ← List.append_assoc]
      exact List.getLast?_concat
  rw [linesOf_append hfirst, linesOf_append hends, linesOf_join hlines, List.append_assoc]

/-! ## Encoding -/

namespace Stream

/-- The bytes of characters. -/
def encode (cs : List Char) : List UInt8 :=
  cs.flatMap String.utf8EncodeChar

/-- Characters are encoded one after the other. -/
theorem encode_append (first second : List Char) : encode (first ++ second) = encode first ++ encode second :=
  List.flatMap_append

/-- The bytes of a text are those of its characters. -/
theorem toByteArray_eq_iff {text : String} {bytes : List UInt8} :
    text.toByteArray = ⟨bytes.toArray⟩ ↔ bytes = encode text.toList := by
  rw [← String.utf8Encode_toList, List.utf8Encode, ← encode]
  constructor
  · intro h
    have hlist := congrArg (fun b : ByteArray => b.data.toList) h
    dsimp only at hlist
    rw [List.toList_data_toByteArray] at hlist
    rw [hlist]
  · rintro rfl
    apply ByteArray.ext
    rw [List.data_toByteArray]

/-- Bytes are valid just where they encode a text, and they are decoded to that. -/
theorem decode_eq_some_iff {bytes : List UInt8} {text : String} :
    decode bytes = some text ↔ bytes = encode text.toList := by
  rw [← toByteArray_eq_iff]
  unfold decode String.fromUTF8?
  constructor
  · intro h
    split at h
    · cases h
      rfl
    · cases h
  · intro h
    have hvalid : (ByteArray.mk bytes.toArray).IsValidUTF8 := h ▸ text.isValidUTF8
    rw [dif_pos hvalid]
    exact congrArg some (String.toByteArray_inj.mp h.symm)

/-- What has been encoded is decoded. -/
theorem decode_encode (cs : List Char) : decode (encode cs) = some (String.ofList cs) := by
  rw [decode_eq_some_iff, String.toList_ofList]

/-- Different texts have different bytes. -/
theorem encode_injective {cs ds : List Char} (h : encode cs = encode ds) : cs = ds := by
  have hdecode := congrArg decode h
  rw [decode_encode, decode_encode] at hdecode
  exact String.ofList_injective (Option.some.inj hdecode)

/-- A byte of ASCII stands for a character by itself. -/
theorem utf8EncodeChar_of_mem {c : Char} {b : UInt8} (hb : b.toNat < 128)
    (h : b ∈ String.utf8EncodeChar c) : String.utf8EncodeChar c = [b] := by
  have hhigh (n : Nat) (hn : 128 ≤ n ∧ n < 256) : b ≠ UInt8.ofNat n := by
    rintro rfl
    rw [UInt8.toNat_ofNat', Nat.mod_eq_of_lt hn.2] at hb
    omega
  unfold String.utf8EncodeChar at h ⊢
  dsimp only at h ⊢
  by_cases hone : c.val.toNat ≤ 0x7f
  · rw [if_pos hone] at h ⊢
    rw [List.mem_singleton.mp h]
  · -- all bytes of longer encodings have the highest bit
    rw [if_neg hone] at h
    exfalso
    split at h
    · simp only [List.mem_cons, List.not_mem_nil, or_false] at h
      rcases h with h | h <;> exact hhigh _ (by omega) h
    · split at h
      · simp only [List.mem_cons, List.not_mem_nil, or_false] at h
        rcases h with h | h | h <;> exact hhigh _ (by omega) h
      · simp only [List.mem_cons, List.not_mem_nil, or_false] at h
        rcases h with h | h | h | h <;> exact hhigh _ (by omega) h

/-- A single character is encoded by the library. -/
theorem encode_singleton (c : Char) : encode [c] = String.utf8EncodeChar c := by
  simp [encode]

/-- A byte below 128 stands in an encoding for its own character only. -/
theorem mem_encode_iff {c : Char} {b : UInt8} (hb : b.toNat < 128) (hc : String.utf8EncodeChar c = [b])
    (cs : List Char) : b ∈ encode cs ↔ c ∈ cs := by
  constructor
  · intro h
    obtain ⟨d, hd, hmem⟩ := List.mem_flatMap.mp h
    have hcode : encode [c] = encode [d] := by
      rw [encode_singleton, encode_singleton, hc, utf8EncodeChar_of_mem hb hmem]
    obtain rfl : c = d := by simpa using encode_injective hcode
    exact hd
  · intro h
    exact List.mem_flatMap.mpr ⟨c, h, by rw [hc]; exact List.mem_singleton_self b⟩

/-- The byte of a line feed. -/
theorem utf8EncodeChar_lineFeed : String.utf8EncodeChar '\n' = [10] := by
  decide

/-- The byte of a carriage return. -/
theorem utf8EncodeChar_return : String.utf8EncodeChar '\r' = [13] := by
  decide

/-- Only the empty text has no bytes. -/
theorem encode_eq_nil_iff {cs : List Char} : encode cs = [] ↔ cs = [] := by
  constructor
  · exact fun h => encode_injective (h.trans rfl)
  · rintro rfl
    rfl

/-! ## Lines of bytes -/

/-- **The same cuts**: the bytes of a text fall into the bytes of its lines. -/
theorem splits_encode {cs rest : List Char} {complete : List (List Char)}
    (h : Splits '\n' cs complete rest) : Splits 10 (encode cs) (complete.map encode) (encode rest) := by
  obtain ⟨rfl, hcomplete, hrest⟩ := h
  have hfeed (line : List Char) : (10 : UInt8) ∈ encode line ↔ '\n' ∈ line :=
    mem_encode_iff (by decide) utf8EncodeChar_lineFeed line
  refine ⟨?_, ?_, fun hmem => hrest ((hfeed rest).mp hmem)⟩
  · rw [encode_append]
    congr 1
    induction complete with
    | nil => rfl
    | cons line complete ih =>
      obtain ⟨-, hlines⟩ := List.forall_mem_cons.mp hcomplete
      rw [List.flatMap_cons, encode_append, encode_append, encode_singleton, utf8EncodeChar_lineFeed,
        ih hlines, List.map_cons, List.flatMap_cons]
  · intro piece hpiece
    obtain ⟨line, hline, rfl⟩ := List.mem_map.mp hpiece
    exact fun hmem => hcomplete line hline ((hfeed line).mp hmem)

/-- Taking a carriage return off can be done before or after encoding. -/
theorem withoutReturn_encode (cs : List Char) :
    withoutReturn 13 (encode cs) = encode (withoutReturn '\r' cs) := by
  rcases cs.eq_nil_or_concat with rfl | ⟨ds, c, rfl⟩
  · rfl
  rw [List.concat_eq_append]
  by_cases hc : c = '\r'
  · subst hc
    rw [encode_append, encode_singleton, utf8EncodeChar_return, withoutReturn_concat,
      withoutReturn_concat]
  · have hchar : (ds ++ [c]).getLast? ≠ some '\r' := by simpa using hc
    have hbyte : (encode (ds ++ [c])).getLast? ≠ some 13 := by
      intro hlast
      rw [encode_append, List.getLast?_append] at hlast
      have hmem : (13 : UInt8) ∈ encode [c] := by
        cases hend : (encode [c]).getLast? with
        | none =>
          have hnil := encode_eq_nil_iff.mp (List.getLast?_eq_none_iff.mp hend)
          cases hnil
        | some b =>
          rw [hend] at hlast
          obtain rfl : b = 13 := Option.some.inj hlast
          exact List.mem_of_getLast? hend
      have hreturn := (mem_encode_iff (by decide) utf8EncodeChar_return [c]).mp hmem
      exact hc (List.mem_singleton.mp hreturn).symm
    rw [withoutReturn_of_ne hchar, withoutReturn_of_ne hbyte]

/-- Lines of valid bytes are all decoded. -/
theorem decodeLines_map_encode (lines : List (List Char)) :
    decodeLines (lines.map encode) = (lines.map String.ofList, none) := by
  induction lines with
  | nil => rfl
  | cons line lines ih =>
    rw [List.map_cons, decodeLines, decode_encode, ih]
    rfl

/-- **The bytes of a text are cut into its lines.** -/
theorem lines_of_decode {stream : Stream} {text : String} (hends : stream.failure = none)
    (htext : decode stream.bytes = some text) : stream.lines = (linesOf text, none) := by
  obtain ⟨complete, rest, hsplits⟩ := exists_splits '\n' text.toList
  have hbytes := splits_encode hsplits
  rw [← decode_eq_some_iff.mp htext] at hbytes
  have hcomplete : (complete.map encode).map (withoutReturn 13) =
      (complete.map (withoutReturn '\r')).map encode := by
    simp only [List.map_map]
    exact List.map_congr_left fun line _ => withoutReturn_encode line
  have hlast : (if (encode rest).isEmpty then [] else [encode rest]) =
      (if rest.isEmpty then [] else [rest]).map encode := by
    cases rest with
    | nil => rfl
    | cons c rest =>
      have hne : encode (c :: rest) ≠ [] := fun h => nomatch encode_eq_nil_iff.mp h
      rw [if_neg (by simpa using hne)]
      rfl
  unfold lines linesOf
  rw [hends, hbytes.completeLines_eq, hsplits.completeLines_eq]
  dsimp only
  rw [hcomplete, hlast, ← List.map_append, decodeLines_map_encode]

/-! ## Streams that break off -/

/-- What a complete line, without its line feed, is delivered as: its text, less one carriage return. -/
inductive Delivers (line : List UInt8) : String → Prop where
  | plain {text : String} :
      decode line = some text → text.toList.getLast? ≠ some '\r' → Delivers line text
  | withReturn {text : String} : decode line = some (text ++ "\r") → Delivers line text

/-- Where a stream delivers no more: behind the complete lines that are given, for the reason that is
given. -/
inductive Breaks (stream : Stream) (texts : List String) (reason : String) : Prop where
  /-- The next line is complete, and not valid. -/
  | invalid {before behind : List (List UInt8)} {line rest : List UInt8} :
      Splits 10 stream.bytes (before ++ line :: behind) rest →
      List.Forall₂ Delivers before texts →
      decode line = none → reason = invalidText → Breaks stream texts reason
  /-- There is no other complete line, and the stream fails. -/
  | failed {complete : List (List UInt8)} {rest : List UInt8} :
      Splits 10 stream.bytes complete rest →
      List.Forall₂ Delivers complete texts →
      stream.failure = some reason → Breaks stream texts reason
  /-- There is no other complete line, and what is left of the stream is not valid. -/
  | unfinished {complete : List (List UInt8)} {rest : List UInt8} :
      Splits 10 stream.bytes complete rest →
      List.Forall₂ Delivers complete texts →
      stream.failure = none → decode rest = none → reason = invalidText → Breaks stream texts reason

/-- Bytes that deliver a text are decoded to it without their carriage return. -/
theorem Delivers.decode_withoutReturn {line : List UInt8} {text : String} (h : Delivers line text) :
    decode (withoutReturn 13 line) = some text := by
  cases h with
  | plain hdecode hlast =>
    rw [decode_eq_some_iff.mp hdecode, withoutReturn_encode, withoutReturn_of_ne hlast, decode_encode,
      String.ofList_toList]
  | withReturn hdecode =>
    have happend : (text ++ "\r").toList = text.toList ++ ['\r'] := by simp
    rw [decode_eq_some_iff.mp hdecode, withoutReturn_encode, happend, withoutReturn_concat, decode_encode,
      String.ofList_toList]

/-- Valid bytes deliver a text. -/
theorem exists_delivers {line : List UInt8} {text : String} (h : decode line = some text) :
    ∃ delivered, Delivers line delivered := by
  rcases text.toList.eq_nil_or_concat with hnil | ⟨cs, c, hconcat⟩
  · exact ⟨text, .plain h (by rw [hnil]; simp)⟩
  · rw [List.concat_eq_append] at hconcat
    by_cases hc : c = '\r'
    · subst hc
      refine ⟨String.ofList cs, .withReturn ?_⟩
      rw [h, ← String.ofList_toList (s := text), hconcat]
      simp
    · refine ⟨text, .plain h ?_⟩
      rw [hconcat]
      simpa using hc

/-- Taking a carriage return off does not make bytes valid. -/
theorem decode_withoutReturn_eq_none {line : List UInt8} (h : decode line = none) :
    decode (withoutReturn 13 line) = none := by
  by_cases hlast : line.getLast? = some 13
  · obtain ⟨body, rfl⟩ := List.getLast?_eq_some_iff.mp hlast
    rw [withoutReturn_concat]
    refine Option.eq_none_iff_forall_ne_some.mpr fun text htext => ?_
    -- the carriage return would make a text of the line as well
    have hline : body ++ [13] = encode (text.toList ++ ['\r']) := by
      rw [encode_append, encode_singleton, utf8EncodeChar_return, ← decode_eq_some_iff.mp htext]
    rw [hline, decode_encode] at h
    cases h
  · rw [withoutReturn_of_ne hlast]
    exact h

/-- Lines that deliver texts are decoded before the others. -/
theorem decodeLines_append {complete : List (List UInt8)} {texts : List String}
    (h : List.Forall₂ Delivers complete texts) (more : List (List UInt8)) :
    decodeLines (complete.map (withoutReturn 13) ++ more) =
      (texts ++ (decodeLines more).1, (decodeLines more).2) := by
  induction h with
  | nil => rfl
  | cons hline _ ih =>
    rw [List.map_cons, List.cons_append, decodeLines, hline.decode_withoutReturn, ih]
    rfl

/-- The first line that is not valid ends the decoding. -/
theorem decodeLines_of_none {line : List UInt8} (h : decode line = none) (more : List (List UInt8)) :
    decodeLines (line :: more) = ([], some invalidText) := by
  rw [decodeLines, h]

/-- **A stream that breaks off** delivers the lines before that. -/
theorem lines_of_breaks {stream : Stream} {texts : List String} {reason : String}
    (h : stream.Breaks texts reason) : stream.lines = (texts, some reason) := by
  unfold lines
  cases h with
  | @invalid before behind line rest hsplits hbefore hline hreason =>
    subst hreason
    have hnone := decode_withoutReturn_eq_none hline
    rw [hsplits.completeLines_eq, List.map_append, List.map_cons]
    cases stream.failure with
    | some failure =>
      dsimp only
      rw [decodeLines_append hbefore, decodeLines_of_none hnone, List.append_nil, Option.getD_some]
    | none =>
      dsimp only
      rw [List.append_assoc, decodeLines_append hbefore, List.cons_append, decodeLines_of_none hnone,
        List.append_nil]
  | @failed complete rest hsplits hcomplete hfailure =>
    have hlines := decodeLines_append hcomplete []
    rw [List.append_nil] at hlines
    rw [hsplits.completeLines_eq, hfailure]
    dsimp only
    rw [hlines, decodeLines, List.append_nil, Option.getD_none]
  | @unfinished complete rest hsplits hcomplete hfailure hrest hreason =>
    subst hreason
    have hne : rest ≠ [] := by
      rintro rfl
      rw [show ([] : List UInt8) = encode [] from rfl, decode_encode] at hrest
      cases hrest
    rw [hsplits.completeLines_eq, hfailure]
    dsimp only
    rw [if_neg (by simpa using hne), decodeLines_append hcomplete, decodeLines_of_none hrest,
      List.append_nil]

/-- All complete lines deliver texts, or there is a first one that is not valid. -/
theorem delivers_or_exists_invalid (complete : List (List UInt8)) :
    (∃ texts, List.Forall₂ Delivers complete texts) ∨
      ∃ before line behind texts, complete = before ++ line :: behind ∧
        List.Forall₂ Delivers before texts ∧ decode line = none := by
  induction complete with
  | nil => exact .inl ⟨[], .nil⟩
  | cons line complete ih =>
    cases hline : decode line with
    | none => exact .inr ⟨[], line, complete, [], rfl, .nil, hline⟩
    | some text =>
      obtain ⟨delivered, hdelivers⟩ := exists_delivers hline
      rcases ih with ⟨texts, htexts⟩ | ⟨before, bad, behind, texts, rfl, htexts, hbad⟩
      · exact .inl ⟨delivered :: texts, .cons hdelivers htexts⟩
      · exact .inr ⟨line :: before, bad, behind, delivered :: texts, rfl, .cons hdelivers htexts, hbad⟩

/-- Lines that deliver texts are together the bytes of a text. -/
theorem exists_encode_of_delivers {complete : List (List UInt8)} {texts : List String}
    (h : List.Forall₂ Delivers complete texts) :
    ∃ cs, complete.flatMap (· ++ [10]) = encode cs := by
  induction h with
  | nil => exact ⟨[], rfl⟩
  | @cons line text _ _ hline _ ih =>
    obtain ⟨cs, hcs⟩ := ih
    obtain ⟨whole, hwhole⟩ : ∃ whole, decode line = some whole := by
      cases hline with
      | plain hdecode _ => exact ⟨_, hdecode⟩
      | withReturn hdecode => exact ⟨_, hdecode⟩
    refine ⟨whole.toList ++ ['\n'] ++ cs, ?_⟩
    rw [List.flatMap_cons, hcs, encode_append, encode_append, encode_singleton, utf8EncodeChar_lineFeed,
      ← decode_eq_some_iff.mp hwhole]

/-- **A stream that is no text, or fails, breaks off somewhere.** -/
theorem exists_breaks {stream : Stream} (h : stream.failure ≠ none ∨ decode stream.bytes = none) :
    ∃ texts reason, stream.Breaks texts reason := by
  obtain ⟨complete, rest, hsplits⟩ := exists_splits 10 stream.bytes
  rcases delivers_or_exists_invalid complete with ⟨texts, htexts⟩ |
    ⟨before, line, behind, texts, rfl, htexts, hline⟩
  · cases hfailure : stream.failure with
    | some reason => exact ⟨texts, reason, .failed hsplits htexts hfailure⟩
    | none =>
      have hbytes : decode stream.bytes = none := h.resolve_left (not_not.mpr hfailure)
      refine ⟨texts, invalidText, .unfinished hsplits htexts hfailure ?_ rfl⟩
      refine Option.eq_none_iff_forall_ne_some.mpr fun text htext => ?_
      -- valid lines with a valid rest behind them would be a text
      obtain ⟨cs, hcs⟩ := exists_encode_of_delivers htexts
      rw [hsplits.eq_append, hcs, decode_eq_some_iff.mp htext, ← encode_append, decode_encode] at hbytes
      cases hbytes
  · exact ⟨texts, invalidText, .invalid hsplits htexts hline rfl⟩

end Stream

end Acceptance
