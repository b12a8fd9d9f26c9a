import PurrceptCore.Models.Requests
import PurrceptCore.Numbers.Binary64

set_option relaxedAutoImplicit false
set_option autoImplicit false

/-!
# What `repr` shows

The structure of `repr` of a request and of the content in it, and the equality of content. A
dataclass shows its fields, except those that are declared with `repr=False`.

## Main definitions

* `PurrceptCore.ReprTree` — what the text of `repr` says.
* `PurrceptCore.contentRepr`, `PurrceptCore.ModelRequest.reprTree` — `repr` of the content of a
  reminder and of a request.
* `PurrceptCore.Json.Equal`, `PurrceptCore.ContentBlock.Equal` — equality in Python.
* `PurrceptCore.ContentBlock.eraseAudio` — content without the data of its audio.

## Main results

* `PurrceptCore.Json.reprTree_inj` — `repr` tells JSON values apart.
* `PurrceptCore.ContentBlock.reprTree_eq_iff` — `repr` shows content up to the data of its audio.
* `PurrceptCore.ContentBlock.Equal.eq_of_eraseAudio` — audio data takes part in equality.

## Design

* Equality of numbers compares a boolean, an integer and a float by their values, and equality of
  mappings ignores the order of the keys.
* Of the generation settings only the tool choice is there to be shown.
-/

namespace PurrceptCore

/-- What the text of `repr` says. -/
inductive ReprTree
  | none
  | bool (value : Bool)
  | int (value : ℤ)
  | float (bits : BitVec 64)
  | str (value : String)
  | bytes (data : List UInt8)
  | tuple (items : List ReprTree)
  | mapping (items : List (String × ReprTree))
  /-- A dataclass instance, with the fields that it shows. -/
  | record (name : String) (fields : List (String × ReprTree))
  /-- A member of an enumeration. -/
  | member (name value : String)
  /-- Any other object. -/
  | object (id : ObjId)

/-- `repr` of an optional string. -/
def optionRepr : Option NonEmptyString → ReprTree
  | none => .none
  | some value => .str value.val

/-! ### JSON -/

mutual

/-- `repr` of a JSON value. -/
def Json.reprTree : Json → ReprTree
  | .null => .none
  | .bool value => .bool value
  | .int value => .int value
  | .float bits => .float bits
  | .str value => .str value
  | .array items => .tuple (reprItems items)
  | .object fields => .mapping (reprFields fields)

/-- `repr` of the items of an array. -/
def Json.reprItems : List Json → List ReprTree
  | [] => []
  | item :: items => item.reprTree :: reprItems items

/-- `repr` of the fields of an object. -/
def Json.reprFields : List (String × Json) → List (String × ReprTree)
  | [] => []
  | (key, item) :: fields => (key, item.reprTree) :: reprFields fields

end

/-- The value of a number. -/
def Json.number? : Json → Option ℚ
  | bool value => some (if value then 1 else 0)
  | int value => some value
  | float bits => some (Binary64.value bits)
  | _ => none

mutual

/-- `left == right`. -/
def Json.Equal : Json → Json → Prop
  | .null, right => right = .null
  | .bool value, right => right.number? = (Json.bool value).number?
  | .int value, right => right.number? = (Json.int value).number?
  | .float bits, right => right.number? = (Json.float bits).number?
  | .str value, right => right = .str value
  | .array items, right => ∃ items', right = .array items' ∧ EqualItems items items'
  | .object fields, right =>
    ∃ fields', right = .object fields' ∧ fields.length = fields'.length ∧
      EqualFields fields fields'

/-- Equality of the items of arrays. -/
def Json.EqualItems : List Json → List Json → Prop
  | [], items => items = []
  | item :: items, items' =>
    ∃ item' rest, items' = item' :: rest ∧ item.Equal item' ∧ EqualItems items rest

/-- Every field of an object is one of the other. -/
def Json.EqualFields : List (String × Json) → List (String × Json) → Prop
  | [], _ => True
  | (key, item) :: fields, fields' =>
    (∃ item', (key, item') ∈ fields' ∧ item.Equal item') ∧ EqualFields fields fields'

end

lemma Json.reprItems_eq (items : List Json) : reprItems items = items.map reprTree := by
  induction items with
  | nil => rfl
  | cons item items ih => rw [reprItems, ih, List.map_cons]

lemma Json.reprFields_eq (fields : List (String × Json)) :
    reprFields fields = fields.map fun field => (field.1, field.2.reprTree) := by
  induction fields with
  | nil => rfl
  | cons field fields ih => rw [reprFields, ih, List.map_cons]

/-- Lists that `f` maps to the same list are mapped to the same list by `g`, if this holds for the
items of one of them. -/
lemma map_eq_of_map_eq {α β γ : Type} {f : α → β} {g : α → γ} {xs ys : List α}
    (hf : ∀ x ∈ xs, ∀ y, f x = f y → g x = g y) (h : xs.map f = ys.map f) :
    xs.map g = ys.map g := by
  induction xs generalizing ys with
  | nil =>
    rw [List.map_eq_nil_iff.1 h.symm]
  | cons x xs ih =>
    cases ys with
    | nil => cases h
    | cons y ys =>
      rw [List.map_cons, List.map_cons, List.cons.injEq] at h
      rw [List.map_cons, List.map_cons, hf x List.mem_cons_self y h.1,
        ih (fun z hz => hf z (List.mem_cons_of_mem x hz)) h.2]

/-- A function tells lists apart when it tells the items of one of them apart from all others. -/
lemma eq_of_map_eq {α β : Type} {f : α → β} {xs ys : List α}
    (hf : ∀ x ∈ xs, ∀ y, f x = f y → x = y) (h : xs.map f = ys.map f) : xs = ys := by
  have hid := @map_eq_of_map_eq _ _ _ f id _ _ hf h
  rwa [List.map_id, List.map_id] at hid

/-- **`repr` tells JSON values apart.** -/
theorem Json.reprTree_inj {a b : Json} (h : a.reprTree = b.reprTree) : a = b := by
  induction a using Json.induction generalizing b with
  | array items ih =>
    cases b <;> simp only [reprTree, reprItems_eq, ReprTree.tuple.injEq, reduceCtorEq] at h
    rw [eq_of_map_eq (fun x hx y hxy => ih x hx hxy) h]
  | object fields ih =>
    cases b <;> simp only [reprTree, reprFields_eq, ReprTree.mapping.injEq, reduceCtorEq] at h
    rw [eq_of_map_eq (fun x hx y hxy => ?_) h]
    rw [Prod.mk.injEq] at hxy
    exact Prod.ext hxy.1 (ih x hx hxy.2)
  | _ => cases b <;> simp_all [reprTree]

/-- Equality of JSON values is reflexive. -/
lemma Json.Equal.refl (json : Json) : json.Equal json := by
  induction json using Json.induction with
  | array items ih =>
    refine ⟨items, rfl, ?_⟩
    induction items with
    | nil => rfl
    | cons item items ihs =>
      rw [List.forall_mem_cons] at ih
      exact ⟨item, items, rfl, ih.1, ihs ih.2⟩
  | object fields ih =>
    refine ⟨fields, rfl, rfl, ?_⟩
    suffices h : ∀ rest : List (String × Json), (∀ field ∈ rest, field ∈ fields) →
        Json.EqualFields rest fields from h fields fun _ h => h
    intro rest hrest
    induction rest with
    | nil => trivial
    | cons field rest ihs =>
      rw [List.forall_mem_cons] at hrest
      exact ⟨⟨field.2, hrest.1, ih field hrest.1⟩, ihs hrest.2⟩
  | _ => rfl

/-! ### Content -/

/-- `repr` of the source of an image. -/
def ImageSource.reprTree : ImageSource → ReprTree
  | .url address => .record "ImageUrl" [("url", .str address.val)]
  | .bytes data mediaType =>
    .record "ImageBytes" [("data", .bytes data), ("media_type", .str mediaType.val)]

/-- The value of an audio media type. -/
def AudioMediaType.value : AudioMediaType → String
  | wav => "audio/wav"
  | mpeg => "audio/mpeg"

/-- `repr` of the source of an audio block: the field `data` is declared with `repr=False`. -/
def AudioBytes.reprTree (source : AudioBytes) : ReprTree :=
  .record "AudioBytes" [("media_type", .str source.mediaType.value)]

/-- `repr` of a tool call. -/
def ToolCallBlock.reprTree (call : ToolCallBlock) : ReprTree :=
  .record "ToolCallBlock" [("id", .str call.id.val), ("name", .str call.name.val),
    ("arguments", (Json.object call.arguments).reprTree)]

mutual

/-- `repr` of a content block. -/
def ContentBlock.reprTree : ContentBlock → ReprTree
  | .text value => .record "TextBlock" [("text", .str value)]
  | .reasoning value => .record "ReasoningBlock" [("text", .str value)]
  | .image source altText =>
    .record "ImageBlock" [("source", source.reprTree), ("alt_text", optionRepr altText)]
  | .audio source altText =>
    .record "AudioBlock" [("source", source.reprTree), ("alt_text", optionRepr altText)]
  | .toolCall call => call.reprTree
  | .toolResult toolCallId content isError =>
    .record "ToolResultBlock" [("tool_call_id", .str toolCallId.val),
      ("content", .tuple (reprBlocks content)), ("is_error", .bool isError)]
  | .extension object => .object object

/-- `repr` of the blocks of a content tuple. -/
def ContentBlock.reprBlocks : List ContentBlock → List ReprTree
  | [] => []
  | block :: content => block.reprTree :: reprBlocks content

end

/-- `repr` of a content tuple. -/
def contentRepr (content : List ContentBlock) : ReprTree :=
  .tuple (content.map ContentBlock.reprTree)

mutual

/-- `left == right`. -/
def ContentBlock.Equal : ContentBlock → ContentBlock → Prop
  | .toolCall call, right => ∃ call' : ToolCallBlock, right = .toolCall call' ∧
      call.id = call'.id ∧ call.name = call'.name ∧
      (Json.object call.arguments).Equal (.object call'.arguments)
  | .toolResult toolCallId content isError, right =>
    ∃ content', right = .toolResult toolCallId content' isError ∧ EqualContent content content'
  | .text value, right => right = .text value
  | .reasoning value, right => right = .reasoning value
  | .image source altText, right => right = .image source altText
  | .audio source altText, right => right = .audio source altText
  | .extension object, right => right = .extension object

/-- Equality of content tuples. -/
def ContentBlock.EqualContent : List ContentBlock → List ContentBlock → Prop
  | [], content => content = []
  | block :: content, content' =>
    ∃ block' rest, content' = block' :: rest ∧ block.Equal block' ∧ EqualContent content rest

end

/-- Audio data without information. -/
def AudioBytes.silence (mediaType : AudioMediaType) : AudioBytes :=
  ⟨⟨[0], List.cons_ne_nil _ _⟩, mediaType⟩

mutual

/-- The block without the data of its audio. -/
def ContentBlock.eraseAudio : ContentBlock → ContentBlock
  | .audio source altText => .audio (AudioBytes.silence source.mediaType) altText
  | .toolResult toolCallId content isError => .toolResult toolCallId (eraseAll content) isError
  | .text value => .text value
  | .reasoning value => .reasoning value
  | .image source altText => .image source altText
  | .toolCall call => .toolCall call
  | .extension object => .extension object

/-- The blocks without the data of their audio. -/
def ContentBlock.eraseAll : List ContentBlock → List ContentBlock
  | [] => []
  | block :: content => block.eraseAudio :: eraseAll content

end

/-! ### Requests -/

/-- `repr` of a member of `MessageRole`. -/
def MessageRole.reprTree : MessageRole → ReprTree
  | user => .member "MessageRole.USER" "user"
  | assistant => .member "MessageRole.ASSISTANT" "assistant"
  | tool => .member "MessageRole.TOOL" "tool"

/-- `repr` of a message. -/
def Message.reprTree (message : Message) : ReprTree :=
  .record "Message" [("role", message.role.reprTree), ("content", contentRepr message.content),
    ("name", optionRepr message.name), ("metadata", (Json.object message.metadata).reprTree)]

/-- `repr` of a member of `PromptStability`. -/
def PromptStability.reprTree : PromptStability → ReprTree
  | stable => .member "PromptStability.STABLE" "stable"
  | growing => .member "PromptStability.GROWING" "growing"
  | volatile => .member "PromptStability.VOLATILE" "volatile"

/-- `repr` of an instruction. -/
def SystemInstruction.reprTree (instruction : SystemInstruction) : ReprTree :=
  .record "SystemInstruction" [("content", contentRepr instruction.content),
    ("key", optionRepr instruction.key), ("stability", instruction.stability.reprTree)]

/-- `repr` of a member of `ReminderScope`. -/
def ReminderScope.reprTree : ReminderScope → ReprTree
  | nextRequest => .member "ReminderScope.NEXT_REQUEST" "next_request"
  | turn => .member "ReminderScope.TURN" "turn"
  | conversation => .member "ReminderScope.CONVERSATION" "conversation"

/-- `repr` of a member of `ReminderPlacement`. -/
def ReminderPlacement.reprTree : ReminderPlacement → ReprTree
  | auto => .member "ReminderPlacement.AUTO" "auto"
  | instructions => .member "ReminderPlacement.INSTRUCTIONS" "instructions"
  | tail => .member "ReminderPlacement.TAIL" "tail"

/-- `repr` of a reminder. -/
def SystemReminder.reprTree (reminder : SystemReminder) : ReprTree :=
  .record "SystemReminder" [("content", contentRepr reminder.content),
    ("key", optionRepr reminder.key), ("scope", reminder.scope.reprTree),
    ("placement", reminder.placement.reprTree), ("priority", .int reminder.priority)]

/-- `repr` of a tool specification. -/
def ToolSpec.reprTree (tool : ToolSpec) : ReprTree :=
  .record "ToolSpec" [("name", .str tool.name.val), ("description", optionRepr tool.description),
    ("parameters", (Json.object tool.parameters).reprTree)]

/-- `repr` of a member of `ToolChoice`. -/
def ToolChoice.reprTree : ToolChoice → ReprTree
  | auto => .member "ToolChoice.AUTO" "auto"
  | none => .member "ToolChoice.NONE" "none"
  | required => .member "ToolChoice.REQUIRED" "required"

/-- `repr` of generation settings. -/
def ModelSettings.reprTree (settings : ModelSettings) : ReprTree :=
  .record "ModelSettings" [("tool_choice", settings.toolChoice.reprTree)]

/-- `repr` of a member of `CacheMode`. -/
def CacheMode.reprTree : CacheMode → ReprTree
  | auto => .member "CacheMode.AUTO" "auto"
  | disabled => .member "CacheMode.DISABLED" "disabled"
  | prefer => .member "CacheMode.PREFER" "prefer"
  | explicit => .member "CacheMode.EXPLICIT" "explicit"

/-- `repr` of a `timedelta` of so many microseconds. -/
def timedeltaRepr (microseconds : ℕ) : ReprTree :=
  .record "datetime.timedelta" [("microseconds", .int microseconds)]

/-- `repr` of a cache policy. -/
def PromptCachePolicy.reprTree (cache : PromptCachePolicy) : ReprTree :=
  .record "PromptCachePolicy" [("mode", cache.mode.reprTree), ("key", optionRepr cache.key),
    ("ttl", cache.ttl.elim .none fun ttl => timedeltaRepr ttl.val), ("strict", .bool cache.strict)]

/-- `repr` of a continuation. -/
def ModelContinuation.reprTree (continuation : ModelContinuation) : ReprTree :=
  .record "ModelContinuation" [("provider", .str continuation.provider.val),
    ("data", (Json.object continuation.data).reprTree)]

/-- `repr` of a request. -/
def ModelRequest.reprTree (request : ModelRequest) : ReprTree :=
  .record "ModelRequest" [
    ("messages", .tuple (request.messages.map Message.reprTree)),
    ("instructions", .tuple (request.instructions.map SystemInstruction.reprTree)),
    ("reminders", .tuple (request.reminders.map SystemReminder.reprTree)),
    ("tools", .tuple (request.tools.map ToolSpec.reprTree)),
    ("settings", request.settings.reprTree),
    ("cache", request.cache.reprTree),
    ("continuation", request.continuation.elim .none ModelContinuation.reprTree),
    ("metadata", (Json.object request.metadata).reprTree),
    ("provider_options", (Json.object request.providerOptions).reprTree)]

/-! ### What is shown of content -/

namespace ContentBlock

lemma reprBlocks_eq (content : List ContentBlock) : reprBlocks content = content.map reprTree := by
  induction content with
  | nil => rfl
  | cons block content ih => rw [reprBlocks, ih, List.map_cons]

lemma eraseAll_eq (content : List ContentBlock) : eraseAll content = content.map eraseAudio := by
  induction content with
  | nil => rfl
  | cons block content ih => rw [eraseAll, ih, List.map_cons]

/-- Audio data is not shown. -/
lemma reprTree_eraseAudio (block : ContentBlock) : block.eraseAudio.reprTree = block.reprTree := by
  induction block using ContentBlock.induction with
  | toolResult toolCallId content isError ih =>
    simp only [eraseAudio, reprTree, reprBlocks_eq, eraseAll_eq, List.map_map, Function.comp_def]
    rw [List.map_congr_left fun block hblock => ih block hblock]
  | _ => rfl

lemma optionRepr_inj {a b : Option NonEmptyString} (h : optionRepr a = optionRepr b) : a = b := by
  cases a with
  | none => cases b <;> simp_all [optionRepr]
  | some a => cases b <;> simp_all [optionRepr, Subtype.ext_iff]

lemma reprTree_image_inj {a b : ImageSource} (h : a.reprTree = b.reprTree) : a = b := by
  cases a <;> cases b <;> simp_all [ImageSource.reprTree, Subtype.ext_iff]

lemma reprTree_audio_inj {a b : AudioBytes} (h : a.reprTree = b.reprTree) :
    a.mediaType = b.mediaType := by
  unfold AudioBytes.reprTree at h
  cases ha : a.mediaType <;> cases hb : b.mediaType <;> simp_all [AudioMediaType.value]

lemma reprTree_call_inj {a b : ToolCallBlock} (h : a.reprTree = b.reprTree) : a = b := by
  obtain ⟨id, name, arguments⟩ := a
  obtain ⟨id', name', arguments'⟩ := b
  simp only [ToolCallBlock.reprTree, ReprTree.record.injEq, List.cons.injEq, Prod.mk.injEq,
    ReprTree.str.injEq, true_and, and_true] at h
  obtain ⟨hid, hname, harguments⟩ := h
  have hjson := Json.reprTree_inj harguments
  rw [Json.object.injEq] at hjson
  rw [Subtype.ext hid, Subtype.ext hname, hjson]

/-- Everything else is shown. -/
lemma eraseAudio_eq_of_reprTree_eq {a b : ContentBlock} (h : a.reprTree = b.reprTree) :
    a.eraseAudio = b.eraseAudio := by
  induction a using ContentBlock.induction generalizing b with
  | toolResult toolCallId content isError ih =>
    cases b <;> simp [reprTree, reprBlocks_eq, ToolCallBlock.reprTree] at h
    obtain ⟨hid, hcontent, herror⟩ := h
    simp only [eraseAudio, eraseAll_eq]
    rw [Subtype.ext hid, herror, map_eq_of_map_eq (fun x hx y hxy => ih x hx hxy) hcontent]
  | audio source altText =>
    cases b <;> simp [reprTree, ToolCallBlock.reprTree] at h
    simp only [eraseAudio, reprTree_audio_inj h.1, optionRepr_inj h.2]
  | image source altText =>
    cases b <;> simp [reprTree, ToolCallBlock.reprTree] at h
    rw [reprTree_image_inj h.1, optionRepr_inj h.2]
  | toolCall call =>
    cases b <;> simp [reprTree, ToolCallBlock.reprTree] at h
    next call' =>
      have hcall : call.reprTree = call'.reprTree := by
        simp only [ToolCallBlock.reprTree, h.1, h.2.1, h.2.2]
      rw [reprTree_call_inj hcall]
  | _ => cases b <;> simp_all [reprTree, ToolCallBlock.reprTree]

/-- **`repr` shows content up to the data of its audio.** -/
theorem reprTree_eq_iff {a b : ContentBlock} :
    a.reprTree = b.reprTree ↔ a.eraseAudio = b.eraseAudio := by
  refine ⟨eraseAudio_eq_of_reprTree_eq, fun h => ?_⟩
  rw [← reprTree_eraseAudio a, h, reprTree_eraseAudio]

/-- `repr` of a content tuple shows it up to the data of its audio. -/
theorem contentRepr_eq_iff {content content' : List ContentBlock} :
    contentRepr content = contentRepr content' ↔
      content.map eraseAudio = content'.map eraseAudio := by
  rw [contentRepr, contentRepr, ReprTree.tuple.injEq]
  constructor
  · exact map_eq_of_map_eq fun _ _ _ => reprTree_eq_iff.1
  · exact map_eq_of_map_eq fun _ _ _ => reprTree_eq_iff.2

/-! ### Equality of content -/

/-- Content tuples whose blocks are equal are equal. -/
lemma EqualContent.refl_of {content : List ContentBlock}
    (h : ∀ block ∈ content, block.Equal block) : EqualContent content content := by
  induction content with
  | nil => rfl
  | cons block content ih =>
    rw [List.forall_mem_cons] at h
    exact ⟨block, content, rfl, h.1, ih h.2⟩

/-- Equality of blocks is reflexive. -/
lemma Equal.refl (block : ContentBlock) : block.Equal block := by
  induction block using ContentBlock.induction with
  | toolCall call => exact ⟨call, rfl, rfl, rfl, Json.Equal.refl _⟩
  | toolResult toolCallId content isError ih => exact ⟨content, rfl, EqualContent.refl_of ih⟩
  | _ => rfl

/-- Equal content tuples that agree up to audio are the same, if this holds for their blocks. -/
lemma EqualContent.eq_of_eraseAudio_of {content content' : List ContentBlock}
    (h : EqualContent content content')
    (heq : ∀ block ∈ content, ∀ block' : ContentBlock, block.Equal block' →
      block.eraseAudio = block'.eraseAudio → block = block')
    (herase : content.map eraseAudio = content'.map eraseAudio) : content = content' := by
  induction content generalizing content' with
  | nil => exact Eq.symm h
  | cons block content ih =>
    obtain ⟨block', rest, rfl, hblock, hrest⟩ := h
    rw [List.map_cons, List.map_cons, List.cons.injEq] at herase
    rw [List.forall_mem_cons] at heq
    rw [heq.1 block' hblock herase.1, ih hrest heq.2 herase.2]

/-- **Audio data takes part in equality**: equal blocks that agree up to their audio are the
same. -/
theorem Equal.eq_of_eraseAudio {a b : ContentBlock} (h : a.Equal b)
    (herase : a.eraseAudio = b.eraseAudio) : a = b := by
  induction a using ContentBlock.induction generalizing b with
  | toolCall call =>
    obtain ⟨call', rfl, -⟩ := h
    exact herase
  | toolResult toolCallId content isError ih =>
    obtain ⟨content', rfl, hcontent⟩ := h
    simp only [eraseAudio, eraseAll_eq, toolResult.injEq, true_and, and_true] at herase
    rw [hcontent.eq_of_eraseAudio_of (fun x hx y => ih x hx) herase]
  | _ => exact Eq.symm h

/-- Equality of content tuples is reflexive. -/
lemma EqualContent.refl (content : List ContentBlock) : EqualContent content content :=
  EqualContent.refl_of fun block _ => Equal.refl block

/-- Equal content tuples that agree up to audio are the same. -/
lemma EqualContent.eq_of_eraseAudio {content content' : List ContentBlock}
    (h : EqualContent content content')
    (herase : content.map eraseAudio = content'.map eraseAudio) : content = content' :=
  h.eq_of_eraseAudio_of (fun _ _ _ => Equal.eq_of_eraseAudio) herase

end ContentBlock

end PurrceptCore
