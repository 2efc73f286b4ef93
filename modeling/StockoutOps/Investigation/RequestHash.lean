import StockoutOps.Investigation.EvidenceJson
import StockoutOps.Investigation.IntakeIdempotency
import StockoutOps.Investigation.Service
import StockoutOps.PrintedFloats

/-!
Contract: the payload hash of an intake request as it was written.

Owns: requests whose timestamps keep their offsets, their
`model_dump(mode="json")`, and the exact pairs of requests on which the payload
hash is a hash of the request.

Does not own: the digest.
-/

namespace StockoutOps.Investigation

open StockoutOps.Foundation.Delimiters StockoutOps.Foundation.Interleaving
open StockoutOps.Sql

/-! ## Timestamps as they are written -/

/-- An aware `datetime` that was parsed from ISO 8601, whose offsets are whole
minutes. -/
structure WrittenTimestamp extends ZonedDatetime where
  minutes : offset % 60000000 = 0

namespace WrittenTimestamp

/-- The offset as pydantic prints it: `Z`, or `±HH:MM`. -/
def zoneText (value : WrittenTimestamp) : List Char :=
  let seconds := value.offset.natAbs / 1000000
  if value.offset = 0 then ['Z']
  else ZonedDatetime.zoneSign value.offset ::
    (padded 2 (seconds / 3600) ++ (':' :: padded 2 (seconds % 3600 / 60)))

/-- The `datetime` in `model_dump(mode="json")`. -/
def dump (value : WrittenTimestamp) : String :=
  String.ofList (value.civil.text ++ value.zoneText)

/-- Where the time of day ends. -/
def StartsZone (char : Char) : Prop := char = 'Z' ∨ char = '+' ∨ char = '-'

theorem zoneText_starts (value : WrittenTimestamp) :
    ∃ mark rest, value.zoneText = mark :: rest ∧ StartsZone mark := by
  unfold zoneText
  split
  · exact ⟨_, _, rfl, .inl rfl⟩
  · refine ⟨_, _, rfl, ?_⟩
    unfold ZonedDatetime.zoneSign
    split
    · exact .inr (.inr rfl)
    · exact .inr (.inl rfl)

theorem time_within (civil : CivilTime) : ∀ char ∈ civil.time, ¬ StartsZone char := by
  have digits : ∀ width number, ∀ char ∈ padded width number, ¬ StartsZone char := by
    intro width number char member starts
    have digit := isDigit_of_mem_padded member
    rcases starts with rfl | rfl | rfl <;> cases digit
  have marks : ¬ StartsZone ':' ∧ ¬ StartsZone '.' := by unfold StartsZone; decide
  intro char member
  simp only [CivilTime.time, List.mem_append, List.mem_cons] at member
  rcases member with hour | rfl | minute | rfl | second | fraction
  · exact digits _ _ _ hour
  · exact marks.1
  · exact digits _ _ _ minute
  · exact marks.1
  · exact digits _ _ _ second
  · split at fraction
    · cases fraction
    · rcases List.mem_cons.mp fraction with rfl | micro
      · exact marks.2
      · exact digits _ _ _ micro

theorem zoneSign_ne (offset : Int) : ZonedDatetime.zoneSign offset ≠ 'Z' := by
  unfold ZonedDatetime.zoneSign
  split <;> decide

theorem negative_of_zoneSign {left right : Int}
    (same : ZonedDatetime.zoneSign left = ZonedDatetime.zoneSign right) :
    left < 0 ↔ right < 0 := by
  unfold ZonedDatetime.zoneSign at same
  split at same <;> split at same <;> first | (cases same; done) | omega

theorem offset_of_zoneText {left right : WrittenTimestamp}
    (same : left.zoneText = right.zoneText) : left.offset = right.offset := by
  have leftBound := left.offset_lt
  have rightBound := right.offset_lt
  have leftMinutes := left.minutes
  have rightMinutes := right.minutes
  unfold zoneText at same
  split at same
  · rename_i leftZero
    split at same
    · rename_i rightZero
      exact leftZero.trans rightZero.symm
    · exact absurd (List.cons.inj same).1.symm (zoneSign_ne _)
  · split at same
    · exact absurd (List.cons.inj same).1 (zoneSign_ne _)
    · obtain ⟨signs, digits⟩ := List.cons.inj same
      obtain ⟨hours, rest⟩ := List.append_inj digits (by simp)
      have hour := padded_inj (by omega) (by omega) hours
      have minute := padded_inj (by omega) (by omega) (List.cons.inj rest).2
      have sign := negative_of_zoneSign signs
      omega

/-- Different fields or offsets have different texts. -/
theorem dump_inj {left right : WrittenTimestamp} (same : left.dump = right.dump) :
    left.civil = right.civil ∧ left.offset = right.offset := by
  have chars := String.ofList_injective same
  simp only [CivilTime.text, List.append_assoc] at chars
  obtain ⟨dates, rest⟩ := List.append_inj chars (by simp)
  obtain ⟨leftMark, leftRest, leftZone, leftStarts⟩ := left.zoneText_starts
  obtain ⟨rightMark, rightRest, rightZone, rightStarts⟩ := right.zoneText_starts
  have times := (List.cons.inj rest).2
  rw [leftZone, rightZone] at times
  obtain ⟨times, marks, rests⟩ := split_stop StartsZone times leftStarts rightStarts
    (time_within left.civil) (time_within right.civil)
  refine ⟨CivilTime.text_inj left.fits right.fits ?_, offset_of_zoneText ?_⟩
  · rw [CivilTime.text, CivilTime.text, dates, times]
  · rw [leftZone, rightZone, marks, rests]

end WrittenTimestamp

/-! ## Requests -/

/-- `IntakeRequest` with its timestamps as they were written. -/
structure WrittenRequest where
  skuId : String
  storeId : String
  supplierId : String
  asOfTs : WrittenTimestamp
  windowStart : WrittenTimestamp
  windowEnd : WrittenTimestamp
  skuId_bounds : lengthBetween 1 80 skuId = true
  storeId_bounds : lengthBetween 1 80 storeId = true
  supplierId_bounds : lengthBetween 1 80 supplierId = true
  timestamps : windowStart.instant < windowEnd.instant ∧ windowEnd.instant ≤ asOfTs.instant

namespace WrittenRequest

/-- The request that `==` compares: timestamps are equal as instants. -/
def request (written : WrittenRequest) : IntakeRequest where
  skuId := written.skuId
  storeId := written.storeId
  supplierId := written.supplierId
  asOfTs := written.asOfTs.instant
  windowStart := written.windowStart.instant
  windowEnd := written.windowEnd.instant
  skuId_bounds := written.skuId_bounds
  storeId_bounds := written.storeId_bounds
  supplierId_bounds := written.supplierId_bounds
  timestamps := written.timestamps

/-- `request.model_dump(mode="json")` -/
def modelDump (written : WrittenRequest) : Json :=
  .obj [("sku_id", .str written.skuId), ("store_id", .str written.storeId),
    ("supplier_id", .str written.supplierId), ("as_of_ts", .str written.asOfTs.dump),
    ("window_start", .str written.windowStart.dump), ("window_end", .str written.windowEnd.dump)]

def arguments (written : WrittenRequest) (idempotencyKey : String) (runMode : RunMode) :
    IntakeArguments :=
  ⟨written.request, written.modelDump, idempotencyKey, runMode⟩

def payloadHash (provenance : Provenance) (written : WrittenRequest) : String :=
  provenance.canonicalHash written.modelDump

/-- Every timestamp has the same fields and the same offset in both. -/
structure WrittenAs (left right : WrittenRequest) : Prop where
  asOfTs : left.asOfTs = right.asOfTs
  windowStart : left.windowStart = right.windowStart
  windowEnd : left.windowEnd = right.windowEnd

end WrittenRequest

theorem WrittenTimestamp.eq_of_dump {left right : WrittenTimestamp}
    (same : left.dump = right.dump) : left = right := by
  obtain ⟨civil, offset⟩ := WrittenTimestamp.dump_inj same
  obtain ⟨⟨leftCivil, leftOffset, _, _⟩, _⟩ := left
  obtain ⟨⟨rightCivil, rightOffset, _, _⟩, _⟩ := right
  simp only at civil offset
  subst civil offset
  rfl

section Dump

variable {left right : WrittenRequest}

/-- The dump of a request tells the request, and how it was written. -/
theorem modelDump_eq_iff :
    left.modelDump = right.modelDump ↔ left.request = right.request ∧ left.WrittenAs right := by
  constructor
  · intro same
    simp only [WrittenRequest.modelDump, Json.obj.injEq, List.cons.injEq, Prod.mk.injEq,
      Json.str.injEq, true_and, and_true] at same
    obtain ⟨sku, store, supplier, asOf, start, stop⟩ := same
    have asOfTs := WrittenTimestamp.eq_of_dump asOf
    have windowStart := WrittenTimestamp.eq_of_dump start
    have windowEnd := WrittenTimestamp.eq_of_dump stop
    refine ⟨?_, asOfTs, windowStart, windowEnd⟩
    simp only [WrittenRequest.request, sku, store, supplier, asOfTs, windowStart, windowEnd]
  · rintro ⟨same, asOfTs, windowStart, windowEnd⟩
    simp only [WrittenRequest.request, IntakeRequest.mk.injEq] at same
    simp only [WrittenRequest.modelDump, same.1, same.2.1, same.2.2.1, asOfTs, windowStart,
      windowEnd]

end Dump

/-! ## The payload hash -/

/-- Equal requests share their payload hash, a retry with an equal request under
the key of the first is answered with its run, unless PostgreSQL refuses it, and
other requests have other hashes. -/
structure HashesRequest (service : InvestigationService) (left right : WrittenRequest) : Prop where
  equal : left.request = right.request →
    left.payloadHash service.provenance = right.payloadHash service.provenance
  replayed : left.request = right.request →
    ∀ (pool : Clients RepositoryCall RepositoryReply) (t : Tid) (principal : Principal)
      (idempotencyKey assignedReviewerId : String) (runMode : RunMode) (now : Timestamp)
      (row : KeyRow) (result : Except Failure RepositoryReply),
      Reaches intakeClients (Pool.start World.initial) pool →
      pool.state.view.db.keys (principal.tenantId, idempotencyKey) = some row →
      row.payloadHash = left.payloadHash service.provenance →
      pool.threads t = .running (.beginIntake (service.intakeCall principal
        (right.arguments idempotencyKey runMode) assignedReviewerId now)) (.ret result) →
      (∃ run created, result = .ok (.intake (run, created)) ∧ run.runId = row.runId) ∨
        ∃ error, result = .error (.database error)
  unequal : left.request ≠ right.request →
    left.payloadHash service.provenance ≠ right.payloadHash service.provenance

/-- The payload hash is one of the request exactly when equal requests are
written alike. -/
theorem hashesRequest_iff (service : InvestigationService) (left right : WrittenRequest)
    (injective : service.provenance.canonicalHash left.modelDump =
      service.provenance.canonicalHash right.modelDump → left.modelDump = right.modelDump) :
    HashesRequest service left right ↔
      (left.request = right.request → left.WrittenAs right) := by
  constructor
  · intro hashes same
    exact (modelDump_eq_iff.mp (injective (hashes.equal same))).2
  · intro alike
    have equal : left.request = right.request →
        left.payloadHash service.provenance = right.payloadHash service.provenance := by
      intro same
      exact congrArg service.provenance.canonicalHash (modelDump_eq_iff.mpr ⟨same, alike same⟩)
    refine ⟨equal, ?_, fun other hashes => other (modelDump_eq_iff.mp (injective hashes)).1⟩
    intro same pool t principal idempotencyKey assignedReviewerId runMode now row result reaches
      stored payload ended
    have safe := intake_accepts.reaches IntakeInv.empty (fun _ => rfl) reaches
    have keyed := (intake_accepts.holds IntakeInv.empty (fun _ => rfl) reaches).keyed
    obtain ⟨answer, rfl, returns⟩ := (safe.ended ended).2
    have samePayload : row.payloadHash = (service.intakeCall principal
        (right.arguments idempotencyKey runMode) assignedReviewerId now).payloadHash :=
      payload.trans (equal same)
    cases returns with
    | created runId eventId found =>
        obtain rfl := Option.some.inj (stored.symm.trans found)
        exact .inl ⟨_, _, rfl, rfl⟩
    | replayed existing run last found _ present sameRun =>
        obtain rfl : row = existing := Option.some.inj (stored.symm.trans found)
        exact .inl ⟨_, _, rfl, sameRun.runId.symm.trans (keyed.runs _ _ present)⟩
    | conflicted existing run last eventId found otherPayload =>
        obtain rfl : row = existing := Option.some.inj (stored.symm.trans found)
        exact absurd samePayload otherPayload
    | aborted error => exact .inr ⟨error, rfl⟩

/-! ### Midnight in Greenwich, and ten in the morning -/

def writtenAt (hour hoursEast : Fin 24) (day : Fin 28) : WrittenTimestamp where
  civil := ⟨1970, 1, day, hour, 0, 0, 0⟩
  offset := (hoursEast : Nat) * 3600000000
  fits := ⟨by simp, by simp, by simp only; omega, by simp only; omega, by simp, by simp, by simp⟩
  offset_lt := by omega
  minutes := by omega

theorem day_nonempty : (writtenAt 0 0 1).instant < (writtenAt 0 0 2).instant := by decide

/-- A request for the first day of 1970. -/
def writtenRequest (asOfTs : WrittenTimestamp)
    (ended : (writtenAt 0 0 2).instant ≤ asOfTs.instant) : WrittenRequest where
  skuId := "SKU-1"
  storeId := "STORE-1"
  supplierId := "SUP-1"
  asOfTs := asOfTs
  windowStart := writtenAt 0 0 1
  windowEnd := writtenAt 0 0 2
  skuId_bounds := length_sku1
  storeId_bounds := length_store1
  supplierId_bounds := length_sup1
  timestamps := ⟨day_nonempty, ended⟩

theorem ended_eastern : (writtenAt 0 0 2).instant ≤ (writtenAt 10 10 2).instant := by decide

theorem ended_later : (writtenAt 0 0 2).instant ≤ (writtenAt 10 0 2).instant := by decide

/-- The second day begins in Greenwich. -/
def greenwichRequest : WrittenRequest := writtenRequest (writtenAt 0 0 2) le_rfl

/-- The same request; `as_of_ts` is written ten hours east of Greenwich. -/
def easternRequest : WrittenRequest := writtenRequest (writtenAt 10 10 2) ended_eastern

/-- A request for ten in the morning in Greenwich. -/
def laterRequest : WrittenRequest := writtenRequest (writtenAt 10 0 2) ended_later

/-- The digests of the source on the dumps of the three requests, which differ in the
hour and the offset of `as_of_ts`. -/
def requestDigest (text : String) : String :=
  if text.toList[24]? = some '0' then
    "ea2cb8d8eef1ae945287edffde4be0322dd58354601e0308fc6a7ceb7f4eb17a"
  else if text.toList[32]? = some '+' then
    "0c4139abb9a3bef0998d6118a768233bf3eafac23e1b9306eb6cb1f9e11aac5d"
  else "e73712d4ae1da7b37eab788f43b1986f812a1d961a5b8fff40c2a7f656f1ee40"

theorem requestDigest_hex (text : String) : isHex64 (requestDigest text) = true := by
  unfold requestDigest
  split
  · decide +kernel
  · split <;> decide +kernel

def requestService : InvestigationService where
  provenance := canonicalProvenance printedFloats requestDigest requestDigest_hex
  codec := exactModels.toEvidenceCodec
  toolLockKey := fun _ _ => 0
  assignedReviewer := fun _ => some "reviewer"

theorem greenwich_eq_eastern : greenwichRequest.request = easternRequest.request := by
  simp only [WrittenRequest.request, IntakeRequest.mk.injEq]
  decide

/-- A later request has a hash of its own, and one with another offset has not that of
its request. -/
theorem hashesRequest_greenwich :
    HashesRequest requestService greenwichRequest laterRequest ∧
      ¬ HashesRequest requestService greenwichRequest easternRequest := by
  have later := hashesRequest_iff requestService greenwichRequest laterRequest
    fun same => absurd same (by decide +kernel)
  have eastern := hashesRequest_iff requestService greenwichRequest easternRequest
    fun same => absurd same (by decide +kernel)
  constructor
  · exact later.mpr fun same => absurd (congrArg IntakeRequest.asOfTs same) (by decide)
  · intro hashes
    have alike := eastern.mp hashes greenwich_eq_eastern
    exact absurd (congrArg (·.offset) alike.asOfTs) (by decide)

/-- A retry that writes the same instant with another offset has another hash. -/
theorem other_offset_other_hash :
    greenwichRequest.request = easternRequest.request ∧
      ¬ HashesRequest requestService greenwichRequest easternRequest := by
  refine ⟨greenwich_eq_eastern, fun hashes => absurd (hashes.equal greenwich_eq_eastern) ?_⟩
  decide +kernel

end StockoutOps.Investigation
