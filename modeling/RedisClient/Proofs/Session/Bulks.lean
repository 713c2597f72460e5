import RedisClient.Proofs.Command.Distinct
import RedisClient.Proofs.Reply.Bulks
import RedisClient.Proofs.Session.Replies
import RedisClient.Proofs.Text.Utf8

/-!
# Calls and the bytes of their replies

Bytes reach the caller as they are, or not at all (`bulks_kept`): a call for bytes returns those of the
reply, and a call for a text, or for several, returns the texts whose bytes they are. If there is no such
text, the call fails, and no other text takes its place.
-/

namespace RedisClient.Session

open Connector

variable {call : Call} {bytes : ByteArray} {items : List ByteArray}

/-- If one of the byte strings is not well-formed, they are not those of texts. -/
theorem not_texts (broken : ∃ bytes ∈ items, ¬Text.WellFormed bytes.data.toList) (ss : List String) :
    items ≠ ss.map String.toByteArray := by
  rintro rfl
  obtain ⟨bytes, mem, broken⟩ := broken
  obtain ⟨s, -, eq⟩ := List.mem_map.1 mem
  exact broken (Text.wellFormed_iff.2 ⟨s, eq⟩)

/-- Well-formed byte strings are those of texts. -/
theorem exists_texts (fine : ∀ bytes ∈ items, Text.WellFormed bytes.data.toList) :
    ∃ ss : List String, items = ss.map String.toByteArray := by
  induction items with
  | nil => exact ⟨[], rfl⟩
  | cons bytes items ih =>
    obtain ⟨first, others⟩ := List.forall_mem_cons.1 fine
    obtain ⟨s, rfl⟩ := Text.wellFormed_iff.1 first
    obtain ⟨ss, rfl⟩ := ih others
    exact ⟨s :: ss, rfl⟩

/-- A call for texts and their elements, which come in pairs if they are to be keys and values. -/
def Gathers (call : Call) (items : List ByteArray) : Prop :=
  call.method ∈ Method.collectors ∨ call.method = .hgetall ∧ items.length % 2 = 0

theorem Gathers.shape (gathers : Gathers call items) : call.method.spec.shape.Collects ∨
    call.method.spec.shape = .map ∧ items.length % 2 = 0 := by
  rcases gathers with collector | ⟨hgetall, even⟩
  · exact .inl (Method.mem_collectors.1 collector)
  · rw [hgetall]
    exact .inr ⟨rfl, even⟩

/-- The bytes of bulk replies are returned as they are, as bytes or as the texts that they encode. Bytes
that encode no text are a complaint, wherever a text is wanted. -/
theorem bulks_kept :
    (∀ bytes : ByteArray,
      Text.WellFormed bytes.data.toList ↔ ∃ s : String, s.toByteArray = bytes) ∧
    (∀ key bytes, Ends ⟨.dump, key, ()⟩ (.bulk bytes) (.answer (.bytes bytes))) ∧
    (∀ (call : Call) (bytes : ByteArray),
      call.method.spec.shape = .text ∨ call.method.spec.shape = .optionalText →
        (∀ s : String, s.toByteArray = bytes → Ends call (.bulk bytes) (.answer (.text s))) ∧
        (¬Text.WellFormed bytes.data.toList →
          ∃ message, Ends call (.bulk bytes) (.error (.unexpected message)))) ∧
    ∀ (call : Call) (items : List ByteArray), Gathers call items →
      ((∀ bytes ∈ items, Text.WellFormed bytes.data.toList) →
        ∃ (ss : List String) (a : Answer), items = ss.map String.toByteArray ∧
          Shape.Holds ss call.method.spec.shape a ∧
          Ends call (.array (Reply.bulks items)) (.answer a)) ∧
      ((∃ bytes ∈ items, ¬Text.WellFormed bytes.data.toList) →
        ∃ message, Ends call (.array (Reply.bulks items)) (.error (.unexpected message))) := by
  refine ⟨fun bytes => Text.wellFormed_iff, fun key bytes => ends_of_ok rfl rfl, ?_, ?_⟩
  · intro call bytes textual
    refine ⟨fun s eq => ends_of_ok rfl ((Shape.ofValue_bulk textual).2 ⟨s, eq, rfl⟩), ?_⟩
    intro broken
    refine ends_unexpected rfl (fun a read => ?_) fun entries map => by cases map
    obtain ⟨s, eq, -⟩ := (Shape.ofValue_bulk textual).1 read
    exact broken (Text.wellFormed_iff.2 ⟨s, eq⟩)
  · intro call items gathers
    have clean : (Reply.array (Reply.bulks items)).errors = [] :=
      Reply.errorsIn_map (fun bytes => rfl) items
    have gathers := gathers.shape
    refine ⟨fun fine => ?_, fun broken => ?_⟩
    · obtain ⟨ss, rfl⟩ := exists_texts fine
      rw [List.length_map] at gathers
      obtain ⟨a, read⟩ := Shape.ofValue_texts gathers
      obtain ⟨ss', same, holds⟩ := Shape.holds_of_ofValue (gathers.imp_right And.left) read
      exact ⟨ss', a, same, holds, ends_of_ok clean read⟩
    · refine ends_unexpected clean (fun a read => ?_) fun entries map => by cases map
      obtain ⟨ss, eq, -⟩ := Shape.holds_of_ofValue (gathers.imp_right And.left) read
      exact not_texts broken ss eq

/-- A zero that takes up two bytes is no text, but bytes as good as any. Of two values for a field the
later one is returned. -/
theorem bulks_kept_overlong :
    let zero : ByteArray := ⟨#[0xC0, 0x80]⟩
    let items : List ByteArray := ["a", "1", "a", "2"].map String.toByteArray
    (¬Text.WellFormed zero.data.toList ∧ (∀ bytes ∈ items, Text.WellFormed bytes.data.toList) ∧
      Gathers ⟨.hgetall, "h", ()⟩ items) ∧
    ∃ connector, (connect .obliging { host := "cache" }).value = .ok connector ∧
      (∃ message, ((start connector).step (.call none ⟨.get, "k", ()⟩
        ⟨.reply (.bulk zero), 0⟩)).1.result = .called (.error (.unexpected message))) ∧
      ((start connector).step (.call none ⟨.dump, "k", ()⟩
        ⟨.reply (.bulk zero), 0⟩)).1.result = .called (.answer (.bytes zero)) ∧
      ∃ d : Dict String, d.get? "a" = some "2" ∧
        ((start connector).step (.call none ⟨.hgetall, "h", ()⟩
          ⟨.reply (.array (Reply.bulks items)), 0⟩)).1.result = .called (.answer (.map d)) := by
  intro zero items
  have broken : ¬Text.WellFormed zero.data.toList := by
    rintro fine
    obtain ⟨s, eq⟩ := Text.wellFormed_iff.1 fine
    have valid := s.isValidUTF8
    rw [eq] at valid
    exact absurd valid (by decide +kernel)
  have fine : ∀ bytes ∈ items, Text.WellFormed bytes.data.toList := by
    intro bytes mem
    obtain ⟨s, -, eq⟩ := List.mem_map.1 mem
    exact Text.wellFormed_iff.2 ⟨s, eq⟩
  have gathers : Gathers ⟨.hgetall, "h", ()⟩ items := .inr ⟨rfl, by decide⟩
  have connected : (connect .obliging { host := "cache" }).value = .ok _ := rfl
  have hears {s : Session} {c : Connection} {response : Response} (clean : c.Clean)
      (unlimited : c.readTimeout = none) : c.Hears s.now response :=
    (Connection.Clean.hears_iff clean).2 fun limit limited => by
      rw [unlimited] at limited
      cases limited
  obtain ⟨-, dumped, single, several⟩ := bulks_kept
  obtain ⟨message, complains⟩ := (single ⟨.get, "k", ()⟩ zero (.inr rfl)).2 broken
  obtain ⟨ss, a, same, holds, ends⟩ := (several ⟨.hgetall, "h", ()⟩ items gathers).1 fine
  refine ⟨⟨broken, fine, gathers⟩, _, connected, ⟨message, ?_⟩, ?_, ?_⟩
  · refine complains _ _ _ connected [] none _ _ rfl
      ⟨Call.refusal_none rfl, fun d n limit => by cases limit⟩ none rfl 0 (hears ⟨rfl, rfl, rfl⟩ rfl)
  · refine dumped "k" zero _ _ _ connected [] none _ _ rfl
      ⟨Call.refusal_none rfl, fun d n limit => by cases limit⟩ none rfl 0 (hears ⟨rfl, rfl, rfl⟩ rfl)
  · have words : ["a", "1", "a", "2"] = ss :=
      List.map_injective_iff.2 (fun _ _ => String.toByteArray_inj.1) same
    have holds : Shape.Holds ss .map a := holds
    cases holds with
    | @map d entries paired last =>
      have same : pairWords [("a", "1"), ("a", "2")] = pairWords entries := words.trans paired
      refine ⟨_, Dict.get?_eq_some.2 ((last _).2 ?_), ?_⟩
      · rw [← pairWords_inj same]
        exact ⟨[("a", "1")], [], rfl, by simp⟩
      · refine ends _ _ _ connected [] none _ _ rfl
          ⟨Call.refusal_none rfl, fun d n limit => by cases limit⟩ none rfl 0 (hears ⟨rfl, rfl, rfl⟩ rfl)

end RedisClient.Session
