import KasGraph.NodeRun

set_option autoImplicit false

/-! What a proof of indexing binds. With a hash that is injective and misses the seed, the
final digest of a chain that verifies decides the bytes of every block; and a chain that
does not verify is refused at the first checkpoint that fails. -/

namespace KasGraph

variable {δ : Type}

/-- The hash as an injective function of the prior digest and the bytes, which never yields
the seed. -/
structure PoiHasher.Binding (hasher : PoiHasher δ) : Prop where
  injective : ∀ prior prior' bytes bytes',
    hasher.keyed prior bytes = hasher.keyed prior' bytes' → prior = prior' ∧ bytes = bytes'
  unseeded : ∀ prior bytes, hasher.keyed prior bytes ≠ hasher.seed

namespace PoiHasher

variable (hasher : PoiHasher δ)

/-- The digest over the bytes of blocks, recomputed from a prior digest. -/
def chainFrom (prior : δ) (blocks : List (List UInt8)) : δ := blocks.foldl hasher.keyed prior

/-- The digest of the checkpoint at a position, recomputed along the chain. -/
def recomputedAt (checkpoints : List (PublishedCheckpoint δ)) (index : Nat) : δ :=
  hasher.chainFrom hasher.seed ((checkpoints.take (index + 1)).map (·.canonicalEntityBytes))

theorem chainFrom_concat (prior : δ) (blocks : List (List UInt8)) (bytes : List UInt8) :
    hasher.chainFrom prior (blocks ++ [bytes]) =
      hasher.keyed (hasher.chainFrom prior blocks) bytes := by
  simp [chainFrom]

variable {hasher}

/-- From the tip down: equal digests have equal last blocks over equal digests. -/
theorem Binding.chain_injective (binding : hasher.Binding) {first second : List (List UInt8)}
    (same : hasher.chainFrom hasher.seed first = hasher.chainFrom hasher.seed second) :
    first = second := by
  induction first using List.reverseRecOn generalizing second with
  | nil =>
      cases second using List.reverseRecOn with
      | nil => rfl
      | append_singleton second last =>
          rw [chainFrom_concat] at same
          exact absurd same.symm (binding.unseeded _ _)
  | append_singleton first tip ih =>
      cases second using List.reverseRecOn with
      | nil =>
          rw [chainFrom_concat] at same
          exact absurd same (binding.unseeded _ _)
      | append_singleton second last =>
          rw [chainFrom_concat, chainFrom_concat] at same
          obtain ⟨below, tips⟩ := binding.injective _ _ _ _ same
          rw [ih below, tips]

end PoiHasher

section Verify

variable [DecidableEq δ] {hasher : PoiHasher δ}

omit [DecidableEq δ] in
theorem recomputedAt_append (before rest : List (PublishedCheckpoint δ))
    (checkpoint : PublishedCheckpoint δ) :
    hasher.recomputedAt (before ++ checkpoint :: rest) before.length =
      hasher.keyed (hasher.chainFrom hasher.seed (before.map (·.canonicalEntityBytes)))
        checkpoint.canonicalEntityBytes := by
  unfold PoiHasher.recomputedAt
  rw [List.take_append, List.take_of_length_le (by omega)]
  simp [PoiHasher.chainFrom]

/-- The checkpoints before the first one that fails: each carries bytes and the digest
recomputed for it. -/
def MatchesBelow (hasher : PoiHasher δ) (checkpoints : List (PublishedCheckpoint δ))
    (index : Nat) : Prop :=
  ∀ position checkpoint, position < index → checkpoints[position]? = some checkpoint →
    checkpoint.canonicalEntityBytes ≠ [] ∧
      checkpoint.expectedPoi = hasher.recomputedAt checkpoints position

/-- How the verifier ends: it accepts the whole chain, or it stops at the first checkpoint
that has no bytes or another digest than the recomputed one. -/
inductive Verified (hasher : PoiHasher δ) (checkpoints : List (PublishedCheckpoint δ)) :
    Except PoiError (PoiVerification δ) → Prop where
  | valid (below : MatchesBelow hasher checkpoints checkpoints.length) :
      Verified hasher checkpoints (.ok (.valid
        (hasher.chainFrom hasher.seed (checkpoints.map (·.canonicalEntityBytes)))))
  | diverged (index : Nat) (checkpoint : PublishedCheckpoint δ)
      (below : MatchesBelow hasher checkpoints index)
      (here : checkpoints[index]? = some checkpoint)
      (bytes : checkpoint.canonicalEntityBytes ≠ [])
      (differs : checkpoint.expectedPoi ≠ hasher.recomputedAt checkpoints index) :
      Verified hasher checkpoints (.ok (.diverged index checkpoint.expectedPoi
        (hasher.recomputedAt checkpoints index)))
  | empty (index : Nat) (checkpoint : PublishedCheckpoint δ)
      (below : MatchesBelow hasher checkpoints index)
      (here : checkpoints[index]? = some checkpoint)
      (bytes : checkpoint.canonicalEntityBytes = []) :
      Verified hasher checkpoints (.error .emptyEntityBytes)

omit [DecidableEq δ] in
theorem MatchesBelow.succ {before rest : List (PublishedCheckpoint δ)}
    {checkpoint : PublishedCheckpoint δ}
    (below : MatchesBelow hasher (before ++ checkpoint :: rest) before.length)
    (bytes : checkpoint.canonicalEntityBytes ≠ [])
    (same : checkpoint.expectedPoi =
      hasher.recomputedAt (before ++ checkpoint :: rest) before.length) :
    MatchesBelow hasher (before ++ checkpoint :: rest) (before.length + 1) := by
  intro position other less found
  rcases Nat.lt_succ_iff_lt_or_eq.mp less with earlier | rfl
  · exact below position other earlier found
  · rw [List.getElem?_append_right (le_refl _), Nat.sub_self, List.getElem?_cons_zero,
      Option.some.injEq] at found
    rw [← found]
    exact ⟨bytes, same⟩

/-- The loop of the verifier, after checkpoints that all match. -/
theorem verifyPoiFrom_verified (before rest : List (PublishedCheckpoint δ))
    (below : MatchesBelow hasher (before ++ rest) before.length) :
    Verified hasher (before ++ rest) (verifyPoiFrom hasher
      (hasher.chainFrom hasher.seed (before.map (·.canonicalEntityBytes))) before.length rest) := by
  induction rest generalizing before with
  | nil =>
      rw [List.append_nil] at below ⊢
      exact .valid below
  | cons checkpoint rest ih =>
      have here : (before ++ checkpoint :: rest)[before.length]? = some checkpoint := by simp
      have recomputed := @recomputedAt_append _ hasher before rest checkpoint
      by_cases bytes : checkpoint.canonicalEntityBytes = []
      · have refused : verifyPoiFrom hasher (hasher.chainFrom hasher.seed
            (before.map (·.canonicalEntityBytes))) before.length (checkpoint :: rest) =
              .error .emptyEntityBytes := by
          simp [verifyPoiFrom, computePoi, bytes, bind, Except.bind]
        rw [refused]
        exact .empty before.length checkpoint below here bytes
      · have computed : computePoi hasher (hasher.chainFrom hasher.seed
            (before.map (·.canonicalEntityBytes))) checkpoint.canonicalEntityBytes =
              .ok (hasher.recomputedAt (before ++ checkpoint :: rest) before.length) :=
          (computePoi_eq_ok_iff _ _ _ _).mpr ⟨bytes, recomputed.symm⟩
        unfold verifyPoiFrom
        simp only [computed, bind, Except.bind]
        by_cases same : checkpoint.expectedPoi =
            hasher.recomputedAt (before ++ checkpoint :: rest) before.length
        · rw [if_neg (by simp [same])]
          have later := ih (before ++ [checkpoint])
          rw [List.append_assoc, List.singleton_append, List.map_append, List.map_singleton,
            PoiHasher.chainFrom_concat, ← recomputed, List.length_append, List.length_singleton]
            at later
          exact later (below.succ bytes same)
        · rw [if_pos fun equal => same equal.symm]
          exact .diverged before.length checkpoint below here bytes same

theorem verifyPoiChain_verified (checkpoints : List (PublishedCheckpoint δ)) :
    Verified hasher checkpoints (verifyPoiChain hasher checkpoints) :=
  verifyPoiFrom_verified [] checkpoints fun _ _ less => absurd less (Nat.not_lt_zero _)

theorem final_of_valid {checkpoints : List (PublishedCheckpoint δ)} {final : δ}
    (accepted : verifyPoiChain hasher checkpoints = .ok (.valid final)) :
    final = hasher.chainFrom hasher.seed (checkpoints.map (·.canonicalEntityBytes)) := by
  have verified := @verifyPoiChain_verified _ _ hasher checkpoints
  rw [accepted] at verified
  cases verified
  rfl

end Verify

/-- Two accepted chains with equal final digests have the same bytes at every position. A
chain that is not accepted is refused at its first checkpoint that fails: reported at its
index where the digest differs, by an error where there are no bytes. -/
theorem poi_binds_history [DecidableEq δ] (hasher : PoiHasher δ) (binding : hasher.Binding) :
    (∀ first second final, verifyPoiChain hasher first = .ok (.valid final) →
      verifyPoiChain hasher second = .ok (.valid final) →
      first.length = second.length ∧ ∀ position : Nat,
        (first[position]?).map (·.canonicalEntityBytes) =
          (second[position]?).map (·.canonicalEntityBytes)) ∧
    ∀ checkpoints, (∀ final, verifyPoiChain hasher checkpoints ≠ .ok (.valid final)) →
      ∃ index checkpoint, checkpoints[index]? = some checkpoint ∧
        MatchesBelow hasher checkpoints index ∧
        (checkpoint.canonicalEntityBytes = [] ∧
            verifyPoiChain hasher checkpoints = .error .emptyEntityBytes ∨
          checkpoint.canonicalEntityBytes ≠ [] ∧
            checkpoint.expectedPoi ≠ hasher.recomputedAt checkpoints index ∧
            verifyPoiChain hasher checkpoints = .ok (.diverged index checkpoint.expectedPoi
              (hasher.recomputedAt checkpoints index))) := by
  constructor
  · intro first second final accepted also
    have same := binding.chain_injective ((final_of_valid accepted).symm.trans (final_of_valid also))
    constructor
    · have lengths := congrArg List.length same
      rwa [List.length_map, List.length_map] at lengths
    · intro position
      rw [← List.getElem?_map, ← List.getElem?_map, same]
  · intro checkpoints refused
    have verified := @verifyPoiChain_verified _ _ hasher checkpoints
    generalize verifyPoiChain hasher checkpoints = result at verified refused ⊢
    cases verified with
    | valid below => exact absurd rfl (refused _)
    | diverged index checkpoint below here bytes differs =>
        exact ⟨index, checkpoint, here, below, Or.inr ⟨bytes, differs, rfl⟩⟩
    | empty index checkpoint below here bytes =>
        exact ⟨index, checkpoint, here, below, Or.inl ⟨bytes, rfl⟩⟩

theorem freeHasher_binding : freeHasher.Binding where
  injective prior prior' bytes bytes' same := by
    obtain ⟨priors, last⟩ := List.append_inj' same rfl
    exact ⟨priors, List.singleton_inj.mp last⟩
  unseeded prior bytes := by simp [freeHasher]

/-- Two checkpoints, the second of which claims the digest of other bytes. -/
def forgedChain : List (PublishedCheckpoint (List (List UInt8))) :=
  [⟨[1], [[1]]⟩, ⟨[2], [[1], [3]]⟩]

theorem poi_binds_history_free :
    ∃ index checkpoint, forgedChain[index]? = some checkpoint ∧
      MatchesBelow freeHasher forgedChain index ∧
      (checkpoint.canonicalEntityBytes = [] ∧
          verifyPoiChain freeHasher forgedChain = .error .emptyEntityBytes ∨
        checkpoint.canonicalEntityBytes ≠ [] ∧
          checkpoint.expectedPoi ≠ freeHasher.recomputedAt forgedChain index ∧
          verifyPoiChain freeHasher forgedChain = .ok (.diverged index checkpoint.expectedPoi
            (freeHasher.recomputedAt forgedChain index))) :=
  (poi_binds_history freeHasher freeHasher_binding).2 forgedChain nofun

/-- A checkpoint without bytes is refused with an error, which names no position. -/
theorem empty_bytes_report_no_index :
    (∀ final, verifyPoiChain freeHasher [⟨[], [[1]]⟩] ≠ .ok (.valid final)) ∧
      ∀ index expected recomputed,
        verifyPoiChain freeHasher [⟨[], [[1]]⟩] ≠ .ok (.diverged index expected recomputed) :=
  ⟨nofun, nofun⟩

end KasGraph
