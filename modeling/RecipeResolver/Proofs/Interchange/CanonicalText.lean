import RecipeResolver.Proofs.Digest.SelfDelimiting
import RecipeResolver.Proofs.Interchange.Faithful

/-!
# The fingerprint covers the whole resolution

A resolution is only ever written and never read, so there is no decoder to go back by. But each of
its fields is of a type that can be read back, which makes the encoder of every field injective
(`RoundTrips.injective`), and the compact layout determines the JSON value. Hence the bytes that are
hashed determine the resolution, whatever stands in its texts.

Nothing is assumed about the hash: where two resolutions have one fingerprint and are different, two
messages with one digest have been found.
-/

namespace RecipeResolver

/-- Two messages that are different and have the same digest. -/
def Sha256.Collide (message message' : List UInt8) : Prop :=
  message ≠ message' ∧ digest message = digest message'

/-! ## Fields that are not decoded on their own -/

namespace Json.RoundTrips

variable {α : Type} {encode : α → Json} {decode? : Json → Option α}

/-- An optional value is told apart from another one and from none. -/
theorem ofOption_injective (h : RoundTrips encode decode?) (hnull : decode? .null = none)
    {a b : Option α} (hab : ofOption encode a = ofOption encode b) : a = b := by
  have hread := h.optional hnull a
  rw [hab, h.optional hnull b] at hread
  exact (Option.some.inj hread).symm

end Json.RoundTrips

theorem NormalizedFlags.toJson_injective {s t : NormalizedFlags} (h : s.toJson = t.toJson) :
    s = t := by
  have hflags : s.flags = t.flags := Flag.roundTrips.list.injective h
  cases s
  cases t
  cases hflags
  rfl

namespace Resolution

/-! ## The JSON of a resolution -/

theorem plain_toJson (r : Resolution) : r.toJson.Plain := by
  have hflags := Flag.roundTrips.list.plain r.features.flags
  have hrequirements := PackageRef.roundTrips.list.plain r.requirements
  have hoverrides := OptionOverride.roundTrips.list.plain r.overrides
  have hstandard := Standard.roundTrips.plain_ofOption r.standard
  refine .object ?_
  simp only [List.forall_mem_cons]
  exact ⟨Revision.roundTrips.plain _, Identity.roundTrips.plain _, hflags, hrequirements,
    hoverrides, Json.roundTrips_ofTexts.plain _, hstandard, PackageMetadata.roundTrips.plain _,
    by simp⟩

/-- Every field can be told from the JSON. -/
theorem toJson_injective {a b : Resolution} (h : a.toJson = b.toJson) : a = b := by
  unfold toJson at h
  simp only [Json.object.injEq, List.cons.injEq, Prod.mk.injEq, true_and, and_true] at h
  obtain ⟨hrevision, hpackage, hfeatures, hrequirements, hoverrides, hdefines, hstandard,
    hmetadata⟩ := h
  -- the names of the members are the same ones, so what is left is one equation a field
  have hrevision := Revision.roundTrips.injective hrevision
  have hpackage := Identity.roundTrips.injective hpackage
  have hfeatures := NormalizedFlags.toJson_injective hfeatures
  have hrequirements := PackageRef.roundTrips.list.injective hrequirements
  have hoverrides := OptionOverride.roundTrips.list.injective hoverrides
  have hdefines := Json.roundTrips_ofTexts.injective hdefines
  have hstandard := Standard.roundTrips.ofOption_injective rfl hstandard
  have hmetadata := PackageMetadata.roundTrips.injective hmetadata
  cases a
  cases b
  simp only at hrevision hpackage hfeatures hrequirements hoverrides hdefines hstandard hmetadata
  rw [hrevision, hpackage, hfeatures, hrequirements, hoverrides, hdefines, hstandard, hmetadata]

/-- The text that is hashed determines the resolution. -/
theorem canonicalText_injective {a b : Resolution} (h : a.canonicalText = b.canonicalText) :
    a = b :=
  toJson_injective (Json.compact_injective a.plain_toJson b.plain_toJson h)

/-- The fingerprint covers everything. Resolutions are equal if the bytes are equal that are hashed
for them, and if two have one fingerprint then either they are equal or the two messages that were
hashed are a collision of the hash. -/
theorem hashed_bytes_determine_resolution (a b : Resolution) :
    (utf8 a.canonicalText = utf8 b.canonicalText ↔ a = b) ∧
      (a.fingerprint = b.fingerprint ↔
        a = b ∨ Sha256.Collide (utf8 a.canonicalText) (utf8 b.canonicalText)) := by
  have hbytes : utf8 a.canonicalText = utf8 b.canonicalText ↔ a = b := by
    constructor
    · intro h
      exact canonicalText_injective (utf8_injective h)
    · rintro rfl
      rfl
  refine ⟨hbytes, ?_⟩
  constructor
  · intro h
    by_cases hab : a = b
    · exact .inl hab
    · have hne := mt hbytes.1 hab
      exact .inr ⟨hne, Sha256.digest_eq_of_hexDigest_eq h⟩
  · rintro (rfl | ⟨-, hdigest⟩)
    · rfl
    · show Sha256.hexDigest _ = Sha256.hexDigest _
      unfold Sha256.hexDigest
      rw [hdigest]

end Resolution

end RecipeResolver
