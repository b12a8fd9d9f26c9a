import PurrceptCore.Models.PromptOrder
import PurrceptCore.Models.ReprTrees

set_option relaxedAutoImplicit false
set_option autoImplicit false

/-!
# Change detection by hashes

The content hashes and the prompt fingerprint of a compilation (`_reminder_hash` and
`_request_hash` of `prompt/compiler.py`): which changes of content they show.

## Main definitions

* `PurrceptCore.PromptCompiler.hashing` — the compiler that takes digests of `repr`.
* `PurrceptCore.DifferInAudioOnly` — content that differs in nothing but the data of its audio.
* `PurrceptCore.PromptDraft.DifferInContent` — drafts that differ in the content of their messages.

## Main results

* `PurrceptCore.changes_detected_iff` — a change of content is shown unless it is one of audio
  data only.
* `PurrceptCore.audio_change_undetected` — such a change is not shown.

## Design

* The digest `sha256(repr(…).encode("utf-8")).hexdigest()` is a function of what `repr` shows,
  which is assumed not to collide on the two values that are compared.
-/

namespace PurrceptCore

/-- The compiler, with a digest of what `repr` shows. -/
def PromptCompiler.hashing (digest : ReprTree → String) : PromptCompiler :=
  ⟨fun content => digest (contentRepr content), fun request => digest request.reprTree⟩

/-- The digest does not collide on two values. -/
def Distinguishes (digest : ReprTree → String) (x y : ReprTree) : Prop :=
  digest x = digest y → x = y

/-- The content differs, but only in the data of its audio. -/
def DifferInAudioOnly (content content' : List ContentBlock) : Prop :=
  content ≠ content' ∧
    content.map ContentBlock.eraseAudio = content'.map ContentBlock.eraseAudio

/-- The messages have the same role, name and metadata. -/
structure Message.SameFrame (message message' : Message) : Prop where
  role : message.role = message'.role
  name : message.name = message'.name
  metadata : message.metadata = message'.metadata

/-- The drafts differ in nothing but the content of their messages. -/
structure PromptDraft.DifferInContent (draft draft' : PromptDraft) : Prop where
  rest : draft' = { draft with history := draft'.history }
  continuation : draft.history.continuation = draft'.history.continuation
  turnBoundaries : draft.history.turnBoundaries = draft'.history.turnBoundaries
  messages : List.Forall₂ Message.SameFrame draft.history.messages draft'.history.messages

/-- The content of the messages of a draft, one after the other. -/
def PromptDraft.contents (draft : PromptDraft) : List (List ContentBlock) :=
  draft.history.messages.map Message.content

/-- The compiler with a digest has compiled a prompt. -/
def CompiledBy (digest : ReprTree → String) (compiled : CompiledPrompt) : Prop :=
  ∃ draft stored turn dynamic ids modelRound,
    (PromptCompiler.hashing digest).compile draft stored turn dynamic ids modelRound =
      .ok compiled

/-! ### What is reported -/

section Reports

variable {digest : ReprTree → String} {compiled : CompiledPrompt}

/-- The hashes are those of the reminders of the request, and the fingerprint is that of the
request. -/
lemma CompiledBy.digests (h : CompiledBy digest compiled) :
    compiled.diagnostics.contentHashes =
        compiled.request.reminders.map (fun r => digest (contentRepr r.content)) ∧
      compiled.diagnostics.promptFingerprint = digest compiled.request.reprTree := by
  obtain ⟨draft, stored, turn, dynamic, ids, modelRound, h⟩ := h
  obtain ⟨hrequest, -, hhashes, hfingerprint⟩ := PromptCompiler.compile_inv h
  rw [(ModelRequest.make_fields hrequest).2.2.1, List.map_map]
  exact ⟨hhashes, hfingerprint⟩

/-- The hash that is reported for a reminder. -/
lemma CompiledBy.contentHash (h : CompiledBy digest compiled) {i : ℕ} {r : SystemReminder}
    (hr : compiled.request.reminders[i]? = some r) :
    compiled.diagnostics.contentHashes[i]? = some (digest (contentRepr r.content)) := by
  rw [h.digests.1, List.getElem?_map, hr]
  rfl

end Reports

/-! ### What is shown of a change -/

/-- **A change of content is shown exactly if it is not one of audio data only.** -/
lemma detected_iff {digest : ReprTree → String} {content content' : List ContentBlock}
    (hdigest : Distinguishes digest (contentRepr content) (contentRepr content')) :
    (¬ ContentBlock.EqualContent content content' →
        digest (contentRepr content) ≠ digest (contentRepr content')) ↔
      ¬ DifferInAudioOnly content content' := by
  constructor
  · intro hdetects ⟨hne, herase⟩
    refine hdetects (fun hequal => hne (hequal.eq_of_eraseAudio herase)) ?_
    rw [ContentBlock.contentRepr_eq_iff.2 herase]
  · intro haudio hunequal hsame
    refine haudio ⟨fun heq => hunequal ?_, ContentBlock.contentRepr_eq_iff.1 (hdigest hsame)⟩
    rw [heq]
    exact ContentBlock.EqualContent.refl _

section Drafts

variable {messages messages' : List Message}

/-- Messages with the same frames show the same if their content does. -/
lemma map_reprTree_eq_iff (h : List.Forall₂ Message.SameFrame messages messages') :
    messages.map Message.reprTree = messages'.map Message.reprTree ↔
      (messages.map Message.content).map (List.map ContentBlock.eraseAudio) =
        (messages'.map Message.content).map (List.map ContentBlock.eraseAudio) := by
  induction h with
  | nil => simp only [List.map_nil]
  | @cons message message' rest rest' hframe _ ih =>
    have hhead : message.reprTree = message'.reprTree ↔
        message.content.map ContentBlock.eraseAudio =
          message'.content.map ContentBlock.eraseAudio := by
      rw [← ContentBlock.contentRepr_eq_iff, Message.reprTree, Message.reprTree, hframe.role,
        hframe.name, hframe.metadata]
      simp only [ReprTree.record.injEq, List.cons.injEq, Prod.mk.injEq, true_and, and_true]
    simp only [List.map_cons, List.cons.injEq, ih, hhead]

/-- Contents that are equal one by one and agree up to audio are the same. -/
lemma contents_eq_of_eraseAudio {contents contents' : List (List ContentBlock)}
    (h : List.Forall₂ ContentBlock.EqualContent contents contents')
    (herase : contents.map (List.map ContentBlock.eraseAudio) =
      contents'.map (List.map ContentBlock.eraseAudio)) : contents = contents' := by
  induction h with
  | nil => rfl
  | cons hcontent _ ih =>
    rw [List.map_cons, List.map_cons, List.cons.injEq] at herase
    rw [hcontent.eq_of_eraseAudio herase.1, ih herase.2]

end Drafts

/-- The requests of drafts that differ in content show the same if their messages do. -/
lemma request_reprTree_eq_iff {digest : ReprTree → String} {draft draft' : PromptDraft}
    {stored turn dynamic : List SystemReminder} {ids : List Attribute} {modelRound : ℕ}
    {compiled compiled' : CompiledPrompt} (hdiffer : draft.DifferInContent draft')
    (h : (PromptCompiler.hashing digest).compile draft stored turn dynamic ids modelRound =
      .ok compiled)
    (h' : (PromptCompiler.hashing digest).compile draft' stored turn dynamic ids modelRound =
      .ok compiled') :
    compiled.request.reprTree = compiled'.request.reprTree ↔
      draft.contents.map (List.map ContentBlock.eraseAudio) =
        draft'.contents.map (List.map ContentBlock.eraseAudio) := by
  obtain ⟨hm, hi, hr, ht, hs, hc, hcont, hmeta, ho⟩ :=
    ModelRequest.make_fields (PromptCompiler.compile_inv h).1
  obtain ⟨hm', hi', hr', ht', hs', hc', hcont', hmeta', ho'⟩ :=
    ModelRequest.make_fields (PromptCompiler.compile_inv h').1
  rw [hdiffer.rest] at hi' ht' hs' hc' hcont' hmeta' ho'
  dsimp only at hi' ht' hs' hc' hcont' hmeta' ho'
  unfold PromptDraft.contents
  rw [← map_reprTree_eq_iff hdiffer.messages, ModelRequest.reprTree, ModelRequest.reprTree, hm, hi,
    hr, ht, hs, hc, hcont, hmeta, ho, hm', hi', hr', ht', hs', hc', hcont', hmeta', ho']
  simp only [ReprTree.record.injEq, List.cons.injEq, Prod.mk.injEq, true_and, and_true,
    ReprTree.tuple.injEq]

/-- **Which changes are detected.** For two reminders, different content hashes are reported for
unequal content unless the content differs in audio data only; for two drafts that differ in the
content of their messages, so do the prompt fingerprints. -/
theorem changes_detected_iff (digest : ReprTree → String) :
    (∀ (compiled compiled' : CompiledPrompt) (i j : ℕ) (r t : SystemReminder),
      CompiledBy digest compiled → CompiledBy digest compiled' →
      compiled.request.reminders[i]? = some r → compiled'.request.reminders[j]? = some t →
      Distinguishes digest (contentRepr r.content) (contentRepr t.content) →
      ((¬ ContentBlock.EqualContent r.content t.content →
          compiled.diagnostics.contentHashes[i]? ≠ compiled'.diagnostics.contentHashes[j]?) ↔
        ¬ DifferInAudioOnly r.content t.content)) ∧
    (∀ (draft draft' : PromptDraft) (stored turn dynamic : List SystemReminder)
      (ids : List Attribute) (modelRound : ℕ) (compiled compiled' : CompiledPrompt),
      draft.DifferInContent draft' →
      (PromptCompiler.hashing digest).compile draft stored turn dynamic ids modelRound =
        .ok compiled →
      (PromptCompiler.hashing digest).compile draft' stored turn dynamic ids modelRound =
        .ok compiled' →
      Distinguishes digest compiled.request.reprTree compiled'.request.reprTree →
      ((¬ List.Forall₂ ContentBlock.EqualContent draft.contents draft'.contents →
          compiled.diagnostics.promptFingerprint ≠ compiled'.diagnostics.promptFingerprint) ↔
        ¬ (draft.contents ≠ draft'.contents ∧
          draft.contents.map (List.map ContentBlock.eraseAudio) =
            draft'.contents.map (List.map ContentBlock.eraseAudio)))) := by
  constructor
  · intro compiled compiled' i j r t h h' hr ht hdigest
    rw [h.contentHash hr, h'.contentHash ht, ← detected_iff hdigest, ne_eq, Option.some.injEq]
  · intro draft draft' stored turn dynamic ids modelRound compiled compiled' hdiffer h h' hdigest
    have hshown := request_reprTree_eq_iff hdiffer h h'
    rw [(CompiledBy.digests ⟨_, _, _, _, _, _, h⟩).2, (CompiledBy.digests ⟨_, _, _, _, _, _, h'⟩).2]
    constructor
    · intro hdetects ⟨hne, herase⟩
      refine hdetects (fun hequal => hne (contents_eq_of_eraseAudio hequal herase)) ?_
      rw [hshown.2 herase]
    · intro haudio hunequal hsame
      refine haudio ⟨fun heq => hunequal ?_, hshown.1 (hdigest hsame)⟩
      rw [heq]
      exact List.forall₂_same.2 fun content _ => ContentBlock.EqualContent.refl content

/-! ### Two changes -/

lemma singleton_ne_nil (block : ContentBlock) : [block] ≠ [] := List.cons_ne_nil _ _

/-- A reminder without a key. -/
def reminderOf (block : ContentBlock) : SystemReminder :=
  ⟨[block], none, .nextRequest, .auto, 0, singleton_ne_nil block,
    PromptCompiler.keyless_nextRequest⟩

/-- The compilation of one stored reminder. -/
def compileOne (digest : ReprTree → String) (block : ContentBlock) :
    Except Failure CompiledPrompt :=
  (PromptCompiler.hashing digest).compile PromptCompiler.bareDraft [reminderOf block] [] [] [] 1

/-- The compilation succeeds. -/
lemma compileOne_ok (digest : ReprTree → String) (block : ContentBlock) :
    ∃ compiled, compileOne digest block = .ok compiled ∧ CompiledBy digest compiled ∧
      compiled.request.reminders[0]? = some (reminderOf block) :=
  ⟨_, rfl, ⟨_, _, _, _, _, _, (rfl : compileOne digest block = _)⟩, rfl⟩

/-- Contents of one block are equal only if the blocks are. -/
lemma equal_of_equalContent {a b : ContentBlock}
    (h : ContentBlock.EqualContent [a] [b]) : a.Equal b := by
  obtain ⟨block, rest, hcons, hblock, -⟩ := h
  rw [List.cons.injEq] at hcons
  rw [hcons.1]
  exact hblock

/-- The SHA-256 digests of two contents. -/
def briefDigest : ReprTree → String
  | .tuple [.record _ [(_, .str "Be brief.")]] =>
    "d0c4fa6ac760c09631f1107961461d8b968ece56edc8d9ee1b09666ed371993f"
  | _ => "6fec6a7e1491d37be9c4de06eca3aee94382e1018fa68b6d99de956364159719"

/-- A change of text is shown. -/
theorem changes_detected_iff_brief : ∃ compiled compiled',
    compileOne briefDigest (.text "Be brief.") = .ok compiled ∧
      compileOne briefDigest (.text "Be precise.") = .ok compiled' ∧
      compiled.diagnostics.contentHashes[0]? ≠ compiled'.diagnostics.contentHashes[0]? := by
  obtain ⟨compiled, hok, hcompiled, hr⟩ := compileOne_ok briefDigest (.text "Be brief.")
  obtain ⟨compiled', hok', hcompiled', ht⟩ := compileOne_ok briefDigest (.text "Be precise.")
  refine ⟨compiled, compiled', hok, hok', ?_⟩
  have hdistinct : Distinguishes briefDigest (contentRepr [.text "Be brief."])
      (contentRepr [.text "Be precise."]) := fun h => absurd h (by decide)
  refine ((changes_detected_iff briefDigest).1 compiled compiled' 0 0 _ _ hcompiled hcompiled' hr ht
    hdistinct).2 (fun h => ?_) fun h => ?_
  · have herase := h.2
    simp [reminderOf, ContentBlock.eraseAudio] at herase
  · have hblock : ContentBlock.text "Be precise." = .text "Be brief." := equal_of_equalContent h
    simp at hblock

/-- A recording of one byte. -/
def recording (byte : UInt8) : ContentBlock :=
  .audio ⟨⟨[byte], List.cons_ne_nil _ _⟩, .wav⟩ none

/-- A change of audio data is not shown: there is no digest by which the hashes would differ. -/
theorem audio_change_undetected :
    ¬ ContentBlock.EqualContent (reminderOf (recording 1)).content
        (reminderOf (recording 2)).content ∧
      ¬ ∃ (digest : ReprTree → String) (compiled compiled' : CompiledPrompt),
        compileOne digest (recording 1) = .ok compiled ∧
        compileOne digest (recording 2) = .ok compiled' ∧
        compiled.diagnostics.contentHashes ≠ compiled'.diagnostics.contentHashes := by
  constructor
  · intro h
    have hblock : recording 2 = recording 1 := equal_of_equalContent h
    simp [recording] at hblock
  · rintro ⟨digest, compiled, compiled', hok, hok', hne⟩
    cases hok
    cases hok'
    exact hne rfl

end PurrceptCore
