import LedgerWire.Proofs.Wire.Recovery
import LedgerWire.Wire.Schema

/-!
Contract: writing and reading by a layout that is a value, whatever it is made of. An item and its
layout say what is to be written, and the two are inverse to each other for all layouts at once.

An item keeps a value that is there apart from one that may be absent, so an optional layout inside
an optional one is told from it too and needs no exception.

Owns:
- `Schema.request`, what is to be written of an item of a layout;
- `Request.Roomy`, that no element of an array takes less than four bytes;
- the law of sequences of writing and reading steps, in both directions.

Does not own: requests that no layout makes, such as arrays of unlike elements.
-/

namespace LedgerWire.Wire

/-! ### What is to be written -/

/-- The failure to write an item that the layout does not have. -/
def Schema.foreignItem : Failure := Failure.xdr "value of another layout"

mutual

/-- The request to write an item of a layout, with the same lengths and limits. -/
def Schema.request : Schema → Item → Request
  | .integer format, .integer value => .integer format value
  | .bool, .bool value => .bool value
  | .bytesExactly length, .bytes value => .bytesExactly value length
  | .bytes limit?, .bytes value => .bytes value limit?
  | .text limit?, .text value => .text value limit?
  | .optional _, .absent => .absent
  | .optional content, .present item => .present (content.request item)
  | .array element limit?, .array items => .array (items.map element.request) limit?
  | .sequence parts, .sequence items => .sequence (Schema.requestAll parts items)
  | _, _ => .malformed Schema.foreignItem

/-- The requests to write items of as many layouts. -/
def Schema.requestAll : List Schema → List Item → List Request
  | [], [] => []
  | first :: rest, item :: items => first.request item :: Schema.requestAll rest items
  | _, _ => [.malformed Schema.foreignItem]

end

mutual

/-- Whether no element of an array takes less than four bytes. -/
def Request.Roomy : Request → Prop
  | .present content => content.Roomy
  | .array elements _ =>
    Request.AllRoomy elements ∧ ∀ element ∈ elements, 4 ≤ element.write.bytes.length
  | .sequence parts => Request.AllRoomy parts
  | _ => True

def Request.AllRoomy : List Request → Prop
  | [] => True
  | first :: rest => first.Roomy ∧ Request.AllRoomy rest

end

theorem Request.allRoomy_iff {requests : List Request} :
    Request.AllRoomy requests ↔ ∀ request ∈ requests, request.Roomy := by
  induction requests with
  | nil => exact iff_of_true trivial nofun
  | cons first rest inductionHypothesis =>
    rw [Request.AllRoomy, inductionHypothesis, List.forall_mem_cons]

theorem Request.write_array_eq_done_iff {elements : List Request} {limit? : Option Int}
    {bytes : Bytes} :
    (Request.array elements limit?).write = .done bytes ↔
      exceeded? limit? elements.length = none ∧
        Codec.uint32.write elements.length ++ Request.writeAll elements = .done bytes := by
  rw [Request.write]
  split
  · simp [Output.failed, Output.done, *]
  · simp [*]

/-! ### Lengths -/

theorem four_dvd_length_padded (bytes : Bytes) : 4 ∣ (padded bytes).length := by
  rw [padded, List.length_append, List.length_replicate]
  unfold paddingLength
  omega

theorem four_dvd_of_write_integer {format : Integer} {n : Int} {bytes : Bytes}
    (written : (Codec.integer format).write n = .done bytes) : 4 ∣ bytes.length := by
  rw [Codec.length_of_write_integer written]
  cases format <;> decide

theorem four_dvd_of_write_bool {flag : Bool} {bytes : Bytes}
    (written : Codec.bool.write flag = .done bytes) : 4 ∣ bytes.length :=
  four_dvd_of_write_integer written

theorem four_dvd_of_append {first second : Output} {bytes : Bytes}
    (written : first ++ second = .done bytes)
    (left : ∀ ⦃front⦄, first = .done front → 4 ∣ front.length)
    (right : ∀ ⦃back⦄, second = .done back → 4 ∣ back.length) : 4 ∣ bytes.length := by
  rcases Output.append_eq_done_iff.mp written with ⟨front, back, writtenFront, writtenBack, rfl⟩
  rw [List.length_append]
  exact Nat.dvd_add (left writtenFront) (right writtenBack)

theorem four_dvd_of_write_bytes {limit? : Option Int} {value bytes : Bytes}
    (written : (Codec.bytes limit?).write value = .done bytes) : 4 ∣ bytes.length := by
  rcases Codec.write_bytes_eq_done_iff.mp written with ⟨-, written⟩
  apply four_dvd_of_append written
  · intro front writtenLength
    exact four_dvd_of_write_integer writtenLength
  · intro back writtenBytes
    cases writtenBytes
    exact four_dvd_length_padded value

mutual

/-- Whatever is written fills a multiple of four bytes. -/
theorem Request.four_dvd_of_write (request : Request) {bytes : Bytes}
    (written : request.write = .done bytes) : 4 ∣ bytes.length := by
  cases request with
  | integer format value => exact four_dvd_of_write_integer written
  | bool value => exact four_dvd_of_write_bool written
  | absent => exact four_dvd_of_write_bool written
  | bytesExactly value length =>
    simp only [Request.write, Codec.bytesExactly] at written
    split_ifs at written
    · cases written
      exact four_dvd_length_padded value
    · cases written
  | bytes value limit? => exact four_dvd_of_write_bytes written
  | text value limit? => exact four_dvd_of_write_bytes written
  | present content =>
    apply four_dvd_of_append written
    · intro front writtenFlag
      exact four_dvd_of_write_bool writtenFlag
    · intro back writtenContent
      exact content.four_dvd_of_write writtenContent
  | array elements limit? =>
    apply four_dvd_of_append (Request.write_array_eq_done_iff.mp written).2
    · intro front writtenCount
      exact four_dvd_of_write_integer writtenCount
    · intro back writtenElements
      exact Request.four_dvd_of_writeAll elements writtenElements
  | sequence parts => exact Request.four_dvd_of_writeAll parts written
  | foreignInteger format value => cases written
  | malformed failure => cases written

theorem Request.four_dvd_of_writeAll (requests : List Request) {bytes : Bytes}
    (written : Request.writeAll requests = .done bytes) : 4 ∣ bytes.length := by
  cases requests with
  | nil =>
    cases written
    exact Nat.dvd_zero 4
  | cons first rest =>
    apply four_dvd_of_append written
    · intro front writtenFirst
      exact first.four_dvd_of_write writtenFirst
    · intro back writtenRest
      exact Request.four_dvd_of_writeAll rest writtenRest

end

/-! ### Reading what is written -/

/-- A layout as a way to write its items and to read them. -/
def Schema.codec (schema : Schema) : Codec Item :=
    ⟨fun item => (schema.request item).write, schema.read⟩

theorem Schema.writeAll_map_request (element : Schema) (items : List Item) :
    Request.writeAll (items.map element.request) = element.codec.writeAll items := by
  induction items with
  | nil => rfl
  | cons first rest inductionHypothesis =>
    rw [List.map_cons, Request.writeAll, inductionHypothesis]
    rfl

theorem Schema.write_array (element : Schema) (limit? : Option Int) (items : List Item) :
    (Schema.request (.array element limit?) (.array items)).write =
      (element.codec.array limit?).write items := by
  rw [Schema.request, Request.write, List.length_map, Schema.writeAll_map_request]
  rfl

/-- Elements that have room for four bytes each, and are roomy themselves. -/
def Schema.RoomyElement (element : Schema) (item : Item) : Prop :=
  (element.request item).Roomy ∧ 4 ≤ (element.request item).write.bytes.length

theorem Schema.roomyElement_of_roomy {element : Schema} {limit? : Option Int} {items : List Item}
    (roomy : (Schema.request (.array element limit?) (.array items)).Roomy) :
    ∀ item ∈ items, element.RoomyElement item := by
  rw [Schema.request, Request.Roomy, Request.allRoomy_iff] at roomy
  intro item member
  have requested := List.mem_map_of_mem (f := element.request) member
  exact ⟨roomy.1 _ requested, roomy.2 _ requested⟩

mutual

/-- What is written of an item is read back to it. -/
theorem Schema.restores_codec (schema : Schema) :
    schema.codec.Restores fun item => (schema.request item).Roomy := by
  intro item bytes roomy written
  cases schema with
  | integer format =>
    cases item with
    | integer value => exact ((Codec.faithful_integer format).yields written).map _
    | _ => cases written
  | bool =>
    cases item with
    | bool value => exact (Codec.faithful_bool.yields written).map _
    | _ => cases written
  | bytesExactly length =>
    cases item with
    | bytes value => exact ((Codec.faithful_bytesExactly length).yields written).map _
    | _ => cases written
  | bytes limit? =>
    cases item with
    | bytes value => exact ((Codec.faithful_bytes limit?).yields written).map _
    | _ => cases written
  | text limit? =>
    cases item with
    | text value => exact ((Codec.faithful_text limit?).yields written).map _
    | _ => cases written
  | optional content =>
    cases item with
    | absent =>
      change Codec.bool.write false = .done bytes at written
      apply (Codec.faithful_bool.yields written).bind_nil
      exact Reader.yields_pure Item.absent
    | present item =>
      rcases Output.append_eq_done_iff.mp written with ⟨front, back, flag, writtenContent, rfl⟩
      apply (Codec.faithful_bool.yields flag).bind
      exact (content.restores_codec roomy writtenContent).bind_nil (Reader.yields_pure _)
    | _ => cases written
  | array element limit? =>
    cases item with
    | array items =>
      have restores : element.codec.Restores element.RoomyElement := by
        intro item bytes roomy written
        exact element.restores_codec roomy.1 written
      have wide ⦃item bytes⦄ (roomy : element.RoomyElement item)
          (written : element.codec.write item = .done bytes) : 4 ≤ bytes.length := by
        have enough := roomy.2
        change 4 ≤ (element.codec.write item).bytes.length at enough
        rwa [written] at enough
      have elements := Schema.roomyElement_of_roomy roomy
      have writtenArray := (element.write_array limit? items).symm.trans written
      exact (restores.array wide limit? elements writtenArray).map _
    | _ => cases written
  | sequence parts =>
    cases item with
    | sequence items => exact (Schema.yields_readAll parts items roomy written).map _
    | _ => cases written

/-- What is written of items one after the other is read back to them. -/
theorem Schema.yields_readAll (schemas : List Schema) (items : List Item) {bytes : Bytes}
    (roomy : Request.AllRoomy (Schema.requestAll schemas items))
    (written : Request.writeAll (Schema.requestAll schemas items) = .done bytes) :
    (Schema.readAll schemas).Yields bytes items := by
  cases schemas with
  | nil =>
    cases items with
    | nil =>
      cases written
      exact Reader.yields_pure []
    | cons => cases written
  | cons first rest =>
    cases items with
    | nil => cases written
    | cons item items =>
      rcases Output.append_eq_done_iff.mp written with ⟨front, back, writtenFirst, writtenRest, rfl⟩
      apply (first.restores_codec roomy.1 writtenFirst).bind
      exact (Schema.yields_readAll rest items roomy.2 writtenRest).bind_nil (Reader.yields_pure _)

end

/-! ### Writing what is read -/

mutual

/-- What an item is read from is what is written of it. -/
theorem Schema.canonical_codec (schema : Schema) : schema.codec.Canonical fun _ => True := by
  intro cursor item after read
  refine ⟨trivial, ?_⟩
  cases schema with
  | integer format =>
    rcases Reader.run_map_eq_ok.mp read with ⟨value, readValue, rfl⟩
    exact ((Codec.faithful_integer format).recovers.canonical readValue).2
  | bool =>
    rcases Reader.run_map_eq_ok.mp read with ⟨value, readValue, rfl⟩
    exact (Codec.faithful_bool.recovers.canonical readValue).2
  | bytesExactly length =>
    rcases Reader.run_map_eq_ok.mp read with ⟨value, readValue, rfl⟩
    exact ((Codec.faithful_bytesExactly length).recovers.canonical readValue).2
  | bytes limit? =>
    rcases Reader.run_map_eq_ok.mp read with ⟨value, readValue, rfl⟩
    exact ((Codec.faithful_bytes limit?).recovers.canonical readValue).2
  | text limit? =>
    rcases Reader.run_map_eq_ok.mp read with ⟨value, readValue, rfl⟩
    exact ((Codec.faithful_text limit?).recovers.canonical readValue).2
  | optional content =>
    rcases Outcome.run_bind_eq_ok.mp read with ⟨present, between, readFlag, read⟩
    rcases Codec.faithful_bool.canonical readFlag with ⟨front, split, writtenFlag, -⟩
    cases present with
    | false =>
      rcases Outcome.run_pure_eq_ok.mp read with ⟨rfl, rfl⟩
      exact ⟨front, split, writtenFlag⟩
    | true =>
      simp only [if_true, Outcome.run_bind_eq_ok, Outcome.run_pure_eq_ok] at read
      rcases read with ⟨found, _, read, rfl, rfl⟩
      rcases content.canonical_codec read with ⟨-, back, split', written⟩
      refine ⟨front ++ back, by rw [split, split', List.append_assoc], ?_⟩
      exact Output.append_eq_done_iff.mpr ⟨front, back, writtenFlag, written, rfl⟩
  | array element limit? =>
    rcases Reader.run_map_eq_ok.mp read with ⟨items, readItems, rfl⟩
    have canonical : element.codec.Canonical fun _ => True := element.canonical_codec
    rcases canonical.array limit? readItems with ⟨-, front, split, written⟩
    exact ⟨front, split, (element.write_array limit? items).trans written⟩
  | sequence parts =>
    rcases Reader.run_map_eq_ok.mp read with ⟨items, readItems, rfl⟩
    exact Schema.canonical_readAll parts readItems

/-- What items are read from one after the other is what is written of them. -/
theorem Schema.canonical_readAll (schemas : List Schema) {items : List Item} {cursor after : Cursor}
    (read : (Schema.readAll schemas).run cursor = .ok items after) :
    ∃ front, cursor.rest = front ++ after.rest ∧
      Request.writeAll (Schema.requestAll schemas items) = .done front := by
  cases schemas with
  | nil =>
    rcases Outcome.run_pure_eq_ok.mp read with ⟨rfl, rfl⟩
    exact ⟨[], rfl, rfl⟩
  | cons first rest =>
    simp only [Schema.readAll, Outcome.run_bind_eq_ok, Outcome.run_pure_eq_ok] at read
    rcases read with ⟨item, between, readFirst, others, _, readRest, rfl, rfl⟩
    rcases first.canonical_codec readFirst with ⟨-, front, split, written⟩
    rcases Schema.canonical_readAll rest readRest with ⟨back, split', writtenRest⟩
    refine ⟨front ++ back, by rw [split, split', List.append_assoc], ?_⟩
    exact Output.append_eq_done_iff.mpr ⟨front, back, written, writtenRest, rfl⟩

end

/-! ### Both directions -/

/-- Writing and reading by the same layouts are inverse to each other. What is written of any items
fills a multiple of four bytes and is read back to the items, up to just where it ends, if the
elements of arrays take four bytes each; and an input that is read to its end is what is written of
the items it is read to. -/
theorem Schema.readAll_writeAll_inverse :
    (∀ schemas items bytes,
      Request.AllRoomy (Schema.requestAll schemas items) →
      Request.writeAll (Schema.requestAll schemas items) = .done bytes →
        4 ∣ bytes.length ∧
          ∀ offset tail, (Schema.readAll schemas).run ⟨offset, bytes ++ tail⟩ =
            .ok items ⟨offset + bytes.length, tail⟩) ∧
    (∀ schemas items input,
      (Schema.readAll schemas).readAll input = .ok items →
        Request.writeAll (Schema.requestAll schemas items) = .done input) := by
  constructor
  · intro schemas items bytes roomy written
    exact ⟨Request.four_dvd_of_writeAll _ written,
      Schema.yields_readAll schemas items roomy written⟩
  · intro schemas items input wholly
    rcases Reader.readAll_eq_ok.mp wholly with ⟨after, read, rest⟩
    rcases Schema.canonical_readAll schemas read with ⟨front, split, written⟩
    rw [rest, List.append_nil] at split
    obtain rfl : input = front := split
    exact written

/-- At most three pairs of a text that may be absent and a number, and then three bytes. -/
def Schema.labelled : List Schema :=
  [.array (.sequence [.optional (.text (some 5)), .integer .int64]) (some 3), .bytesExactly 3]

def Item.labelled : List Item :=
  [.array [.sequence [.present (.text "é"), .integer (-5)],
    .sequence [.absent, .integer (2 ^ 63 - 1)]], .bytes [1, 2, 3]]

/-- The two pairs and the bytes take forty bytes; these are read back before any tail, and are
written again. -/
theorem Schema.readAll_writeAll_inverse_labelled :
    ∃ bytes, Request.writeAll (Schema.requestAll Schema.labelled Item.labelled) = .done bytes ∧
      bytes.length = 40 ∧ 4 ∣ bytes.length ∧
      (∀ tail,
        (Schema.readAll Schema.labelled).run ⟨0, bytes ++ tail⟩ = .ok Item.labelled ⟨40, tail⟩) ∧
      (Schema.readAll Schema.labelled).readAll bytes = .ok Item.labelled ∧
      Request.writeAll (Schema.requestAll Schema.labelled Item.labelled) = .done bytes := by
  have roomy : Request.AllRoomy (Schema.requestAll Schema.labelled Item.labelled) := by
    simp [Schema.labelled, Item.labelled, Schema.requestAll, Schema.request, Request.AllRoomy,
      Request.Roomy]
    decide
  have written : Request.writeAll (Schema.requestAll Schema.labelled Item.labelled) =
      .done (Request.writeAll (Schema.requestAll Schema.labelled Item.labelled)).bytes := by
    decide +kernel
  have length :
      (Request.writeAll (Schema.requestAll Schema.labelled Item.labelled)).bytes.length = 40 := by
    decide +kernel
  rcases Schema.readAll_writeAll_inverse.1 _ _ _ roomy written with ⟨whole, readBack⟩
  have read : (Schema.readAll Schema.labelled).readAll
      (Request.writeAll (Schema.requestAll Schema.labelled Item.labelled)).bytes =
      .ok Item.labelled := by
    have readBackWhole := readBack 0 []
    rw [List.append_nil] at readBackWhole
    exact Reader.readAll_eq_ok.mpr ⟨_, readBackWhole, rfl⟩
  refine ⟨_, written, length, whole, ?_, read, Schema.readAll_writeAll_inverse.2 _ _ _ read⟩
  intro tail
  rw [readBack 0 tail, Nat.zero_add, length]

end LedgerWire.Wire
