import IEDSyncTogether.Base.NumberGrammar
import IEDSyncTogether.State.RoundTrip

/-!
# Tokens of an accepted payload

The integer fields of an accepted payload are numbers as a whole, since `from_chars` is
compared with the end of the field. The form IDs of a slot line and the decimals go through
`stoul` and `stof`, which skip what stands in front of a number and ignore what stands
behind it, `stof` takes words for a number, and a second slot line replaces the first. A
payload is accepted here with whatever `stof` returns, `FloatValue`.
-/

namespace IEDSyncTogether

open Base

/-- The lines behind the header. -/
def bodyLines (payload : ByteString) : List ByteString :=
  (payload.drop kHeader.length).splitOn (byteOf '\n')

/-- The lines of the slots. -/
def slotLines (payload : ByteString) : List ByteString :=
  (bodyLines payload).filter (ascii "S|").isPrefixOf

/-- The lines of the objects. -/
def objectLines (payload : ByteString) : List ByteString :=
  (bodyLines payload).filter (ascii "O|").isPrefixOf

/-- The text behind the plugin of a slot token; an empty slot has none. -/
def formIDText (token : ByteString) : Option ByteString :=
  if token = ascii "-" then none
  else (find token (byteOf ':') 0).map fun separator => token.drop (separator + 1)

/-- The form IDs of all slot lines, as they were received. -/
def formIDTexts (payload : ByteString) : List ByteString :=
  (slotLines payload).flatMap fun line =>
    ((line.drop 2).splitOn (byteOf ',')).filterMap formIDText

/-- A field of an object line. -/
def objectField (line : ByteString) (index : Nat) : ByteString :=
  ((line.drop 2).splitOn (byteOf '|')).getD index []

/-- There is one slot line, and every number is one as a whole. -/
structure WholeTokens (payload : ByteString) : Prop where
  slotLine : (slotLines payload).length = 1
  formIDs : ∀ text ∈ formIDTexts payload, HexText text
  integers : ∀ line ∈ objectLines payload, ∀ index ∈ [0, 1, 4],
    IntegerText (objectField line index)
  localFormIDs : ∀ line ∈ objectLines payload, UnsignedText (objectField line 3)
  decimals : ∀ line ∈ objectLines payload, ∀ index, 8 ≤ index → index < 21 →
    DecimalText (objectField line index)

/-- There is no second slot line, and the lenient functions have nothing to ignore. -/
structure NothingIgnored (payload : ByteString) : Prop where
  slotLine : (slotLines payload).length ≤ 1
  formIDs : ∀ text ∈ formIDTexts payload, TakenByStoul16 text
  decimals : ∀ line ∈ objectLines payload, ∀ index, 8 ≤ index → index < 21 →
    TakenByStof (objectField line index)

/-! ## What acceptance says of a token -/

theorem integerText_of_parseInt32 {text : ByteString} (parsed : (parseInt32 text).isSome) :
    IntegerText text := by
  unfold parseInt32 at parsed
  split at parsed
  · next read => exact integerText_of_fromCharsInt32 read
  · cases parsed

theorem unsignedText_of_parseUInt32 {text : ByteString} (parsed : (parseUInt32 text).isSome) :
    UnsignedText text := by
  unfold parseUInt32 at parsed
  split at parsed
  · next read => exact unsignedText_of_fromCharsUInt32 read
  · cases parsed

/-- `stoul` has read the form ID of an accepted token. -/
theorem stoul16_of_decodeSlotToken {token text : ByteString}
    (decoded : (decodeSlotToken token).isSome) (named : formIDText token = some text) :
    (stoul16 text).isSome := by
  obtain ⟨slot, decoded⟩ := Option.isSome_iff_exists.mp decoded
  unfold formIDText at named
  unfold decodeSlotToken at decoded
  split_ifs at named decoded with missing
  obtain ⟨separator, located, rfl⟩ := Option.map_eq_some_iff.mp named
  obtain ⟨position, found, decoded⟩ := Option.bind_eq_some_iff.mp decoded
  cases located.symm.trans found
  obtain ⟨plugin, _, read⟩ := Option.bind_eq_some_iff.mp decoded
  split_ifs at read
  obtain ⟨localID, converted, _⟩ := Option.bind_eq_some_iff.mp read
  exact Option.isSome_of_eq_some converted

/-- Accepted slots consist of accepted tokens. -/
theorem decodeSlotToken_of_decodeSlots {value : ByteString} (decoded : (decodeSlots value).isSome) :
    ∀ token ∈ value.splitOn (byteOf ','), (decodeSlotToken token).isSome := by
  obtain ⟨slots, decoded⟩ := Option.isSome_iff_exists.mp decoded
  obtain ⟨tokens, read, _⟩ := Option.bind_eq_some_iff.mp decoded
  rw [decodeSlotTokens_eq, List.drop_zero] at read
  split_ifs at read
  exact isSome_of_mapM (Option.isSome_of_eq_some read)

/-- The numbers of an accepted object line have been read. -/
theorem parsed_of_decodeObject {fields : List ByteString}
    {object : CapturedIEDObject FloatValue} (decoded : decodeObject fields = some object) :
    (∀ index ∈ [0, 1, 4], (parseInt32 (fields.getD index [])).isSome) ∧
      (parseUInt32 (fields.getD 3 [])).isSome ∧
      ∀ index, 8 ≤ index → index < 21 → (stof (fields.getD index [])).isSome := by
  have taken (text : ByteString) (value : FloatValue) (read : parseFloat text = some value) :
      (stof text).isSome := Option.isSome_of_eq_some read
  obtain ⟨texts, numbers⟩ := decodeObject_eq_some_iff.mp decoded
  obtain ⟨_, kind, _⟩ := texts.kind
  obtain ⟨_, slot, _⟩ := texts.slot
  obtain ⟨_, visible, _⟩ := texts.visible
  refine ⟨?_, Option.isSome_of_eq_some texts.localFormID, ?_⟩
  · simp only [List.mem_cons, List.not_mem_nil, or_false, forall_eq_or_imp, forall_eq]
    exact ⟨Option.isSome_of_eq_some kind, Option.isSome_of_eq_some slot,
      Option.isSome_of_eq_some visible⟩
  intro index lower upper
  by_cases front : index < 11
  · have read := numbers.position ⟨index - 8, by omega⟩
    simp only [show 8 + (index - 8) = index by omega] at read
    exact taken _ _ read
  · by_cases scaled : index = 11
    · rw [scaled]
      exact taken _ _ numbers.scale
    · have read := numbers.rotationMatrix ⟨index - 12, by omega⟩
      simp only [show 12 + (index - 12) = index by omega] at read
      exact taken _ _ read

/-! ## What acceptance says of a line -/

/-- A line has been decoded by its kind. -/
structure DecodedLine (line : ByteString) : Prop where
  slots : (ascii "S|").isPrefixOf line → (decodeSlots (line.drop 2)).isSome
  object : (ascii "O|").isPrefixOf line → ∃ object : CapturedIEDObject FloatValue,
    decodeObject ((line.drop 2).splitOn (byteOf '|')) = some object

/-- One turn of the line loop decodes its line, and only a slot line makes the slots
present. -/
theorem decodeLine_eq_some {decoding next : Decoding FloatValue} {line : ByteString}
    (step : decodeLine decoding line = some next) :
    DecodedLine line ∧
      (next.haveSlots = true → decoding.haveSlots = true ∨ (ascii "S|").isPrefixOf line) := by
  obtain ⟨rfl, rfl⟩ | ⟨slotLine, slots, read, rfl⟩ | ⟨noSlots, object, read, rfl⟩ :=
    decodeLine_cases step
  · exact ⟨⟨nofun, nofun⟩, .inl⟩
  · refine ⟨⟨fun _ => Option.isSome_of_eq_some read, fun other => ?_⟩, fun _ => .inr slotLine⟩
    have same : ascii "S|" <+: ascii "O|" := List.prefix_of_prefix_length_le
      (List.isPrefixOf_iff_prefix.mp slotLine) (List.isPrefixOf_iff_prefix.mp other) (by decide)
    exact absurd same (by decide)
  · refine ⟨⟨fun slotLine => ?_, fun _ => ⟨object, read⟩⟩, .inl⟩
    rw [noSlots] at slotLine
    cases slotLine

/-- The line loop decodes every line. -/
theorem foldlM_decodeLine_eq_some {lines : List ByteString} {decoding last : Decoding FloatValue}
    (folded : lines.foldlM decodeLine decoding = some last) :
    (∀ line ∈ lines, DecodedLine line) ∧
      (last.haveSlots = true →
        decoding.haveSlots = true ∨ ∃ line ∈ lines, (ascii "S|").isPrefixOf line) := by
  induction lines generalizing decoding with
  | nil =>
      cases folded
      exact ⟨by simp, .inl⟩
  | cons line lines ih =>
      rw [List.foldlM_cons] at folded
      obtain ⟨next, step, further⟩ := Option.bind_eq_some_iff.mp folded
      obtain ⟨decoded, present⟩ := decodeLine_eq_some step
      obtain ⟨others, later⟩ := ih further
      refine ⟨List.forall_mem_cons.mpr ⟨decoded, others⟩, fun complete => ?_⟩
      rcases later complete with now | ⟨other, member, slots⟩
      · exact (present now).imp_right fun slots => ⟨line, List.mem_cons_self, slots⟩
      · exact .inr ⟨other, List.mem_cons_of_mem _ member, slots⟩

/-- An accepted payload has decoded lines and a slot line. -/
theorem decodedLines_of_accepted {payload : ByteString} {state : LocalIEDState FloatValue}
    (accepted : decodeLocalIEDState payload = some state) :
    (∀ line ∈ bodyLines payload, DecodedLine line) ∧ 0 < (slotLines payload).length := by
  unfold decodeLocalIEDState at accepted
  split_ifs at accepted
  rw [split_eq_splitOn] at accepted
  obtain ⟨last, folded, present⟩ := Option.bind_eq_some_iff.mp accepted
  split_ifs at present with complete
  obtain ⟨lines, slots⟩ := foldlM_decodeLine_eq_some folded
  refine ⟨lines, List.length_pos_iff.mpr ?_⟩
  obtain absent | ⟨line, member, slotLine⟩ := slots complete
  · cases absent
  · exact List.ne_nil_of_mem (List.mem_filter.mpr ⟨member, slotLine⟩)

section Accepted

variable {payload : ByteString} {state : LocalIEDState FloatValue}

/-- `stoul` has read every form ID of an accepted payload. -/
theorem stoul16_of_mem_formIDTexts (accepted : decodeLocalIEDState payload = some state)
    {text : ByteString} (member : text ∈ formIDTexts payload) : (stoul16 text).isSome := by
  obtain ⟨line, slotLine, member⟩ := List.mem_flatMap.mp member
  obtain ⟨token, inside, named⟩ := List.mem_filterMap.mp member
  obtain ⟨among, marked⟩ := List.mem_filter.mp slotLine
  have slots := ((decodedLines_of_accepted accepted).1 line among).slots marked
  exact stoul16_of_decodeSlotToken (decodeSlotToken_of_decodeSlots slots token inside) named

/-- The numbers of every object line of an accepted payload have been read. -/
theorem parsed_of_mem_objectLines (accepted : decodeLocalIEDState payload = some state)
    {line : ByteString} (member : line ∈ objectLines payload) :
    (∀ index ∈ [0, 1, 4], (parseInt32 (objectField line index)).isSome) ∧
      (parseUInt32 (objectField line 3)).isSome ∧
      ∀ index, 8 ≤ index → index < 21 → (stof (objectField line index)).isSome := by
  obtain ⟨among, marked⟩ := List.mem_filter.mp member
  obtain ⟨object, read⟩ := ((decodedLines_of_accepted accepted).1 line among).object marked
  exact parsed_of_decodeObject read

/-- An accepted payload has one slot line and whole tokens exactly if it has no second
slot line and nothing around its form IDs and decimals is ignored. -/
theorem accepted_whole_iff (accepted : decodeLocalIEDState payload = some state) :
    WholeTokens payload ↔ NothingIgnored payload := by
  have formID (text : ByteString) (member : text ∈ formIDTexts payload) :
      HexText text ↔ TakenByStoul16 text :=
    hexText_iff_takenByStoul16 (stoul16_of_mem_formIDTexts accepted member)
  have decimal (line : ByteString) (member : line ∈ objectLines payload) (index : Nat)
      (lower : 8 ≤ index) (upper : index < 21) :
      DecimalText (objectField line index) ↔ TakenByStof (objectField line index) :=
    decimalText_iff_takenByStof ((parsed_of_mem_objectLines accepted member).2.2 index lower upper)
  constructor
  · intro whole
    refine ⟨whole.slotLine.le, ?_, ?_⟩
    · intro text member
      exact (formID text member).mp (whole.formIDs text member)
    · intro line member index lower upper
      exact (decimal line member index lower upper).mp
        (whole.decimals line member index lower upper)
  · intro nothing
    refine ⟨le_antisymm nothing.slotLine (decodedLines_of_accepted accepted).2, ?_, ?_, ?_, ?_⟩
    · intro text member
      exact (formID text member).mpr (nothing.formIDs text member)
    · intro line member index among
      exact integerText_of_parseInt32 ((parsed_of_mem_objectLines accepted member).1 index among)
    · intro line member
      exact unsignedText_of_parseUInt32 (parsed_of_mem_objectLines accepted member).2.1
    · intro line member index lower upper
      exact (decimal line member index lower upper).mpr
        (nothing.decimals line member index lower upper)

end Accepted

/-- A sword in the right hand and on the hip. -/
def tidyPayload : ByteString :=
  kHeader ++ ascii "S|536b7972696d2e65736d:12EB7,-,-,-,-,-,-,-,-,-,-,-,-,-,-,-,-,-,-\n" ++
    ascii "O|0|0|536b7972696d2e65736d|77495|1||||-1.500000|0.000000|+2e1|1|1|0|0|0|1|0|0|0|.5\n"

/-- Nothing of it is ignored, so its tokens are whole. -/
theorem tidyPayload_whole : WholeTokens tidyPayload := by
  have accepted : (decodeLocalIEDState tidyPayload : Option (LocalIEDState FloatValue)).isSome := by
    decide +kernel
  obtain ⟨state, accepted⟩ := Option.isSome_iff_exists.mp accepted
  exact (accepted_whole_iff accepted).mpr ⟨by decide, by decide +kernel, by decide +kernel⟩

/-- Two slot lines, a form ID with a blank, a sign, a mark and letters behind it, a word for
a coordinate, and a scale with a blank in front and a letter behind. -/
def loosePayload : ByteString :=
  kHeader ++ ascii "S|-,-,-,-,-,-,-,-,-,-,-,-,-,-,-,-,-,-,-\n" ++
    ascii "S|6b: +0x12eb7zz,-,-,-,-,-,-,-,-,-,-,-,-,-,-,-,-,-,-\n" ++
    ascii "O|0|0|6b|1|1||||-Infinity|0|0| 1x|1|0|0|0|1|0|0|0|1\n"

/-- The decoder accepts it. -/
theorem loosePayload_accepted :
    (decodeLocalIEDState loosePayload : Option (LocalIEDState FloatValue)).isSome ∧
      (slotLines loosePayload).length = 2 ∧
      (∃ text ∈ formIDTexts loosePayload, ¬ HexText text) ∧
      (∃ line ∈ objectLines loosePayload,
        ¬ DecimalText (objectField line 8) ∧ ¬ DecimalText (objectField line 11)) ∧
      ¬ WholeTokens loosePayload := by
  have twice : (slotLines loosePayload).length = 2 := by decide
  refine ⟨?_, twice, ⟨ascii " +0x12eb7zz", by decide, ?_⟩, ?_, ?_⟩
  · decide +kernel
  · intro hex
    exact absurd (hex.2 32 (by decide)) (by decide)
  · refine ⟨ascii "O|0|0|6b|1|1||||-Infinity|0|0| 1x|1|0|0|0|1|0|0|0|1", by decide, ?_, ?_⟩
    · intro decimal
      exact absurd (decimal.of_mem (show (73 : UInt8) ∈ _ by decide)) (by decide)
    · intro decimal
      exact absurd (decimal.of_mem (show (32 : UInt8) ∈ _ by decide)) (by decide)
  · intro whole
    exact absurd (twice.symm.trans whole.slotLine) (by decide)

end IEDSyncTogether
