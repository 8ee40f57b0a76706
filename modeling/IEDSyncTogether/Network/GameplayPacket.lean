import IEDSyncTogether.Network.Packet

/-!
# Gameplay packets by their fields

A packet with the gameplay prefix is the list of the fields behind it. Authentication,
reading and relaying are operations on that list: a key is read from the first field
that has it, the tag is the last `auth` field, and a relay rewrites the first `relay=0`
field that is followed by another one, or puts its mark in front.
-/

namespace IEDSyncTogether

open Base

variable {digest : HmacDigest} {sharedSecret : ByteString} {fields : List ByteString}

/-- The text of the gameplay prefix and the fields behind it. -/
def gameplayText (fields : List ByteString) : ByteString :=
  joined bar (ascii "IEDST") (ascii "v1" :: fields)

/-- Whether a field is an `auth` field. -/
abbrev isAuth : ByteString → Bool := (ascii "auth=").isPrefixOf

/-- The fields of the prefix contain no bar. -/
theorem freeOf_gameplay (free : FreeOf bar fields) :
    FreeOf bar (ascii "IEDST" :: ascii "v1" :: fields) :=
  List.forall_mem_cons.mpr ⟨by decide, List.forall_mem_cons.mpr ⟨by decide, free⟩⟩

/-- The first field stands behind the prefix. -/
theorem gameplayText_cons (field : ByteString) (fields : List ByteString) :
    gameplayText (field :: fields) = kGameplayPrefix ++ joined bar field fields := by
  have front : kGameplayPrefix = ascii "IEDST" ++ bar :: (ascii "v1" ++ [bar]) := rfl
  rw [gameplayText, joined_cons, joined_cons, front]
  simp

/-- A gameplay packet is not empty. -/
theorem gameplayText_ne_nil (fields : List ByteString) : gameplayText fields ≠ [] := by
  simp [gameplayText, joined, ascii]

/-- A packet with the prefix has at least one field behind it. -/
theorem exists_gameplayText {packet : ByteString}
    (gameplay : kGameplayPrefix.isPrefixOf packet = true) :
    ∃ fields, fields ≠ [] ∧ FreeOf bar fields ∧ packet = gameplayText fields := by
  obtain ⟨body, rfl⟩ := List.isPrefixOf_iff_prefix.mp gameplay
  obtain ⟨field, fields, rfl, free⟩ := exists_joined bar body
  exact ⟨field :: fields, List.cons_ne_nil _ _, free, (gameplayText_cons field fields).symm⟩

/-- The text has the prefix if there is a field. -/
theorem isPrefixOf_gameplayText (present : fields ≠ []) :
    kGameplayPrefix.isPrefixOf (gameplayText fields) = true := by
  obtain ⟨field, fields, rfl⟩ := List.exists_cons_of_ne_nil present
  rw [gameplayText_cons, List.isPrefixOf_iff_prefix]
  exact List.prefix_append _ _

/-- Splitting a gameplay packet at its bars gives the prefix and the fields. -/
theorem splitOn_gameplayText (free : FreeOf bar fields) :
    (gameplayText fields).splitOn bar = ascii "IEDST" :: ascii "v1" :: fields :=
  splitOn_joined (freeOf_gameplay free)

/-- A gameplay packet determines its fields. -/
theorem gameplayText_inj {others : List ByteString} (free : FreeOf bar fields)
    (same : gameplayText fields = gameplayText others) (pure : FreeOf bar others) :
    fields = others := by
  have split := congrArg (List.splitOn bar) same
  rw [splitOn_gameplayText free, splitOn_gameplayText pure, List.cons.injEq, List.cons.injEq] at split
  exact split.2.2

/-- Without its tag a packet has all fields but the last one that looks like a tag. -/
theorem withoutAuth_gameplayText (free : FreeOf bar fields) :
    withoutAuth (gameplayText fields) = gameplayText (eraseLast isAuth fields) := by
  rw [withoutAuth, gameplayText, cutLast_joined (freeOf_gameplay free) (by decide),
    eraseLast_cons_of_eq_false (by decide), gameplayText]

/-- A key is read from the first field that has it. -/
theorem fieldValue_gameplayText {key : ByteString} (pure : bar ∉ key) (fields : List ByteString) :
    fieldValue (gameplayText fields) key =
      fields.findSome? (valueOf bar (key ++ [byteOf '='])) := by
  have free : bar ∉ key ++ [byteOf '='] := by
    rw [List.mem_append, not_or]
    exact ⟨pure, by decide⟩
  rw [fieldValue, gameplayText, valueOf_joined free (by simp), List.findSome?_cons,
    List.findSome?_cons, valueOf_unmarked (by decide), valueOf_unmarked (by decide)]

/-- A field with another one behind it stands between two bars. -/
theorem infix_gameplayText (front : List ByteString) (field next : ByteString)
    (back : List ByteString) :
    bar :: (field ++ [bar]) <:+: gameplayText (front ++ field :: next :: back) := by
  refine ⟨gameplayText front, next ++ back.flatMap (bar :: ·), ?_⟩
  simp [gameplayText, joined]

/-! ## The tag -/

/-- The fields a signature appends; none if the HMAC fails. -/
def tagFields (digest : HmacDigest) (sharedSecret content : ByteString) :
    Option (List ByteString) :=
  if sharedSecret = [] then some []
  else (computeHmacSha256 digest sharedSecret content).map fun tag => [ascii "auth=" ++ tag]

/-- The tag contains no bar. -/
theorem freeOf_tagFields {content : ByteString} {tags : List ByteString}
    (tagged : tagFields digest sharedSecret content = some tags) : FreeOf bar tags := by
  unfold tagFields at tagged
  split at tagged
  · cases tagged
    simp [FreeOf]
  · obtain ⟨tag, computed, rfl⟩ := Option.map_eq_some_iff.mp tagged
    have field : bar ∉ ascii "auth=" ++ tag := by
      rw [List.mem_append, not_or]
      exact ⟨by decide, (plain_of_computeHmacSha256 computed).1⟩
    simpa [FreeOf] using field

/-- A signed packet has the tag as its last field. -/
theorem signed_gameplayText (digest : HmacDigest) (sharedSecret : ByteString)
    (fields : List ByteString) :
    signed digest sharedSecret (gameplayText fields) =
      (tagFields digest sharedSecret (gameplayText fields)).elim []
        fun tags => gameplayText (fields ++ tags) := by
  have append (tag : ByteString) : gameplayText fields ++ kAuthField ++ tag =
      gameplayText (fields ++ [ascii "auth=" ++ tag]) := by
    have mark : kAuthField = bar :: ascii "auth=" := rfl
    rw [gameplayText, gameplayText, ← List.cons_append, joined_append, mark]
    simp
  unfold signed tagFields
  split
  · rw [Option.elim_some, List.append_nil]
  · cases computeHmacSha256 digest sharedSecret (gameplayText fields) with
    | none => rfl
    | some tag => simp only [Option.elim_some, Option.map_some, append]

/-- A packet is signed unless the HMAC fails. -/
theorem signed_gameplayText_ne_nil_iff :
    signed digest sharedSecret (gameplayText fields) ≠ [] ↔
      ∃ tags, tagFields digest sharedSecret (gameplayText fields) = some tags := by
  rw [signed_gameplayText]
  cases tagFields digest sharedSecret (gameplayText fields) with
  | none => simp
  | some tags => simp [gameplayText_ne_nil]

/-! ## The relay's mark -/

/-- Mark the fields as relayed. -/
def markFields (fields : List ByteString) : List ByteString :=
  (replaceInner (ascii "relay=0") (ascii "relay=1") fields).getD (ascii "relay=1" :: fields)

/-- Marked fields contain the relay's mark. -/
theorem mem_markFields (fields : List ByteString) : ascii "relay=1" ∈ markFields fields := by
  unfold markFields
  cases done : replaceInner (ascii "relay=0") (ascii "relay=1") fields with
  | none => exact List.mem_cons_self
  | some replaced =>
      obtain ⟨front, next, back, _, _, rfl⟩ := replaceInner_eq_some done
      simp

/-- The mark brings no bar into a field. -/
theorem freeOf_markFields (free : FreeOf bar fields) : FreeOf bar (markFields fields) := by
  have mark : bar ∉ ascii "relay=1" := by decide
  unfold markFields
  cases done : replaceInner (ascii "relay=0") (ascii "relay=1") fields with
  | none => exact List.forall_mem_cons.mpr ⟨mark, free⟩
  | some replaced =>
      obtain ⟨front, next, back, rfl, _, rfl⟩ := replaceInner_eq_some done
      intro field member
      rcases List.mem_append.mp member with earlier | later
      · exact free field (List.mem_append_left _ earlier)
      · rcases List.mem_cons.mp later with rfl | behind
        · exact mark
        · exact free field (List.mem_append_right _ (List.mem_cons_of_mem _ behind))

/-- The mark of a packet is replaced inside its fields. -/
theorem replaceFirst_gameplayText (free : FreeOf bar fields) :
    replaceFirst bar (ascii "relay=0") (ascii "relay=1") (gameplayText fields) =
      (replaceInner (ascii "relay=0") (ascii "relay=1") fields).map gameplayText := by
  rw [gameplayText, replaceFirst_joined _ (freeOf_gameplay free) (by decide)]
  cases fields with
  | nil => rfl
  | cons field fields =>
      rw [replaceInner, if_neg (by decide), Option.map_map]
      rfl

/-- Inserting behind the prefix puts a field in front. -/
theorem insertAt_gameplayText (fields : List ByteString) :
    insertAt (gameplayText fields) kGameplayPrefix.length (ascii "relay=1|") =
      if fields = [] then .error .outOfRange
      else .ok (gameplayText (ascii "relay=1" :: fields)) := by
  cases fields with
  | nil => rfl
  | cons field fields =>
      have mark : ascii "relay=1|" = ascii "relay=1" ++ [bar] := rfl
      rw [gameplayText_cons, insertAt_of_le (by simp), List.take_left, List.drop_left,
        if_neg (List.cons_ne_nil _ _), gameplayText_cons, joined_cons, mark]
      simp

/-- Marking throws only if nothing but an `auth` field stands behind the prefix. -/
theorem markRelayed_gameplayText (free : FreeOf bar fields) :
    markRelayed digest sharedSecret (gameplayText fields) =
      if eraseLast isAuth fields = [] then .error .outOfRange
      else .ok (signed digest sharedSecret
        (gameplayText (eraseLast isAuth (markFields (eraseLast isAuth fields))))) := by
  have kept : FreeOf bar (eraseLast isAuth fields) :=
    fun field member => free field ((eraseLast_sublist fields).subset member)
  rw [markRelayed_eq, withoutAuth_gameplayText free, replaceFirst_gameplayText kept,
    insertAt_gameplayText, ← withoutAuth_gameplayText (freeOf_markFields kept), markFields]
  cases done : replaceInner (ascii "relay=0") (ascii "relay=1") (eraseLast isAuth fields) with
  | none =>
      rw [Option.map_none, Option.getD_none]
      split_ifs <;> rfl
  | some replaced =>
      have present : eraseLast isAuth fields ≠ [] := by
        obtain ⟨front, next, back, shape, _, _⟩ := replaceInner_eq_some done
        simp [shape]
      simp only [Option.map_some, Option.getD_some, if_neg present]

end IEDSyncTogether
