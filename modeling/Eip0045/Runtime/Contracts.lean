import Eip0045.Runtime.RuncState

/-! What the two observation contracts accept, together. -/

namespace Eip0045.Runtime

open Bytes Checked CanonicalJson Jcs

section Contracts

lemma ProcessRecord.rendering_injective {r r' : ProcessRecord} (h : r.parsed = r'.parsed) :
    r.rendering = r'.rendering := by
  simp only [ProcessRecord.parsed, ParsedProcessIdentity.mk.injEq] at h
  obtain ⟨hbootId, hpid, hticks⟩ := h
  have hspelled : r.bootId.spelled = r'.bootId.spelled := by rw [BootUuid.spelled, BootUuid.spelled, hbootId]
  rw [ProcessRecord.rendering, ProcessRecord.rendering, ProcessRecord.wire, ProcessRecord.wire, hspelled,
    hpid, hticks]

lemma positional_ne_rendering (r r' : ProcessRecord) : r.positional ≠ r'.rendering := by
  intro h
  have hfirst := congrArg List.head? h
  simp [ProcessRecord.positional, ProcessRecord.rendering, render] at hfirst

/-- The texts of states that are accepted are the renderings of valid records, within the bound, one for
each; and the texts of identities are those of valid records too, unless the members of a record stand in
an array. -/
theorem runtime_observations_canonical (codec : IndentedCodec) :
    (∀ source, (∃ parsed, parseRuncState codec.toCodec source = .ok parsed) ↔
      ∃ r : RuncRecord, source = r.rendering) ∧
    (∀ source, ((∃ parsed, parseProcessIdentity codec.toCodec source = .ok parsed) ↔
        ∃ r : ProcessRecord, source = r.rendering) ↔
      ¬∃ r : ProcessRecord, source = r.positional) ∧
    (∀ r : RuncRecord, r.rendering.length ≤ runcStateMaxSourceBytes ∧
      parseRuncState codec.toCodec r.rendering = .ok r.parsed) ∧
    (∀ r : ProcessRecord, r.rendering.length ≤ processIdentityMaxSourceBytes ∧
      parseProcessIdentity codec.toCodec r.rendering = .ok r.parsed) ∧
    (∀ source source' parsed, parseRuncState codec.toCodec source = .ok parsed →
      parseRuncState codec.toCodec source' = .ok parsed → source = source') ∧
    (∀ source source' parsed, parseProcessIdentity codec.toCodec source = .ok parsed →
      parseProcessIdentity codec.toCodec source' = .ok parsed →
      (¬∃ r : ProcessRecord, source = r.positional) → (¬∃ r : ProcessRecord, source' = r.positional) →
      source = source') ∧
    ∀ source, parseRuncState codec.toCodec source ≠ .error .outOfRange ∧
      parseProcessIdentity codec.toCodec source ≠ .error .outOfRange := by
  refine ⟨fun source => ?_, fun source => ?_, fun r => ⟨r.length_le, parseRuncState_ok.mpr ⟨r, rfl, rfl⟩⟩,
    fun r => ⟨r.length_le.1, parseProcessIdentity_ok.mpr ⟨r, rfl, .inl rfl⟩⟩, ?_, ?_,
    fun source => ⟨parseRuncState_in_range _ source, parseProcessIdentity_in_range _ source⟩⟩
  · simp only [parseRuncState_ok]
    constructor
    · rintro ⟨_, r, -, hsource⟩
      exact ⟨r, hsource⟩
    · rintro ⟨r, hsource⟩
      exact ⟨_, r, rfl, hsource⟩
  · simp only [parseProcessIdentity_ok]
    constructor
    · rintro hiff ⟨r, rfl⟩
      obtain ⟨r', hr'⟩ := hiff.mp ⟨_, r, rfl, .inr rfl⟩
      exact positional_ne_rendering r r' hr'
    · intro hobject
      constructor
      · rintro ⟨_, r, -, hsource | hsource⟩
        · exact ⟨r, hsource⟩
        · exact absurd ⟨r, hsource⟩ hobject
      · rintro ⟨r, hsource⟩
        exact ⟨_, r, rfl, .inl hsource⟩
  · intro source source' parsed h h'
    obtain ⟨r, hr, rfl⟩ := parseRuncState_ok.mp h
    obtain ⟨r', hr', rfl⟩ := parseRuncState_ok.mp h'
    exact RuncRecord.rendering_injective (hr.trans hr'.symm)
  · intro source source' parsed h h' hobject hobject'
    obtain ⟨r, hr, hsource⟩ := parseProcessIdentity_ok.mp h
    obtain ⟨r', hr', hsource'⟩ := parseProcessIdentity_ok.mp h'
    obtain rfl : source = r.rendering := hsource.resolve_right fun heq => hobject ⟨r, heq⟩
    obtain rfl : source' = r'.rendering := hsource'.resolve_right fun heq => hobject' ⟨r', heq⟩
    exact ProcessRecord.rendering_injective (hr.trans hr'.symm)

/-- The members of an identity, without their names. -/
def positionalIdentity : Bytes := utf8 "[\"550e8400-e29b-41d4-a716-446655440000\",123,\"456\"]"

theorem positional_identity_accepted : ¬∀ (codec : IndentedCodec) (source : Bytes),
    (∃ parsed, parseProcessIdentity codec.toCodec source = .ok parsed) →
      ∃ r : ProcessRecord, source = r.rendering := by
  intro h
  let u : BootUuid := ⟨[0x55, 0x0e, 0x84, 0x00, 0xe2, 0x9b, 0x41, 0xd4, 0xa7, 0x16, 0x44, 0x66, 0x55, 0x44,
    0x00, 0x00], rfl, rfl, rfl⟩
  let r : ProcessRecord := ⟨u, 123, 456, by decide, by decide⟩
  have hpositional : positionalIdentity = r.positional := by decide
  obtain ⟨r', hr'⟩ := h .reference positionalIdentity
    ⟨_, parseProcessIdentity_ok.mpr ⟨r, rfl, .inr hpositional⟩⟩
  exact positional_ne_rendering r r' (hpositional.symm.trans hr')

end Contracts

end Eip0045.Runtime
