import CommandStream.Replay
import Mathlib.Data.List.Forall2
/-!
# What handles and words stand for

Replay looks up every handle of a record and reads every word of it that is an enumeration. The
relations here say what such a lookup comes to when it succeeds, without the order of the lookups
and without the errors: `Names` for a handle, `NamesUnlessNull` for one that may be null, and one
relation for each kind of barrier.
-/

namespace CommandStream

/-! ## Results that are there -/

section Except

variable {ε ε' α β γ : Type}

/-- Two steps in a row have a result when the first one has, and the second one for it. -/
theorem bind_eq_ok {first : Except ε α} {next : α → Except ε β} {result : β} :
    first >>= next = .ok result ↔ ∃ value, first = .ok value ∧ next value = .ok result := by
  cases first <;> simp [bind, Except.bind]

@[simp] theorem pure_eq_ok {value result : α} :
    (pure value : Except ε α) = .ok result ↔ value = result := by
  simp [pure, Except.pure]

/-- Another error makes no difference to a result. -/
@[simp] theorem mapError_eq_ok {change : ε → ε'} {attempt : Except ε α} {result : α} :
    attempt.mapError change = .ok result ↔ attempt = .ok result := by
  cases attempt <;> simp [Except.mapError]

@[simp] theorem map_eq_ok {change : α → β} {attempt : Except ε α} {result : β} :
    attempt.map change = .ok result ↔ ∃ value, attempt = .ok value ∧ change value = result := by
  cases attempt <;> simp [Except.map]

/-- A list of results is there exactly when each element has its own. -/
theorem mapM_eq_ok_iff {attempt : α → Except ε β} {elements : List α} {results : List β} :
    elements.mapM attempt = .ok results ↔
      List.Forall₂ (fun element result => attempt element = .ok result) elements results := by
  induction elements generalizing results with
  | nil => cases results <;> simp
  | cons element later inductionHypothesis =>
    simp only [List.mapM_cons, bind_eq_ok, pure_eq_ok, List.forall₂_cons_left_iff,
      inductionHypothesis]
    constructor
    · rintro ⟨result, first, rest, behind, rfl⟩
      exact ⟨result, rest, first, behind, rfl⟩
    · rintro ⟨result, rest, first, behind, rfl⟩
      exact ⟨result, first, rest, behind, rfl⟩

/-- Results that are the same, element by element, are those of the elements. -/
theorem map_eq_map_ok_iff {attempt : α → Except ε β} {elements : List α}
    {results : List β} :
    elements.map attempt = results.map .ok ↔
      List.Forall₂ (fun element result => attempt element = .ok result) elements results := by
  rw [← List.forall₂_eq_eq_eq, List.forall₂_map_left_iff, List.forall₂_map_right_iff]

end Except

/-- Elements that are related one by one have a partner each. -/
theorem exists_of_mem_forall₂ {α β : Type} {related : α → β → Prop} {left : List α}
    {right : List β} (all : List.Forall₂ related left right) {element : α}
    (member : element ∈ left) : ∃ partner ∈ right, related element partner := by
  induction all with
  | nil => cases member
  | cons first _ inductionHypothesis =>
    rcases List.mem_cons.mp member with rfl | behind
    · exact ⟨_, List.mem_cons_self, first⟩
    · obtain ⟨partner, inRight, isRelated⟩ := inductionHypothesis behind
      exact ⟨partner, List.mem_cons_of_mem _ inRight, isRelated⟩

/-- The table in which a barrier of each kind is looked up. -/
def BarrierResource.family : BarrierResource → ResourceFamily
  | .buffer => .buffer
  | .texture => .texture

/-- The table in which a barrier with a kind word is looked up, if the word names one. -/
def barrierFamily? (word : UInt32) : Option ResourceFamily :=
  (WireEnumeration.ofCode? word).map BarrierResource.family

namespace Resources

variable {resources : Resources} {offset : Nat}

/-- A handle of a family names a native object: its table holds a resource of that object under
it. -/
def Names (resources : Resources) (handle : Handle) (object : ObjectId) : ResourceFamily → Prop
  | .buffer => ∃ buffer, resources.buffers.get handle = .ok buffer ∧ buffer.object = object
  | .texture => ∃ texture, resources.textures.get handle = .ok texture ∧ texture.object = object
  | .sampler => ∃ sampler, resources.samplers.get handle = .ok sampler ∧ sampler.object = object
  | .pipeline =>
    ∃ pipeline, resources.pipelines.get handle = .ok pipeline ∧ pipeline.object = object

/-- The null handle names nothing and needs no family; any other handle names an object of its
family. -/
inductive NamesUnlessNull (resources : Resources) (family : Option ResourceFamily) :
    Handle → Option ObjectId → Prop
  | null : NamesUnlessNull resources family Handle.null none
  | present {handle : Handle} {object : ObjectId} {known : ResourceFamily}
      (notNull : handle ≠ Handle.null) (isFamily : family = some known)
      (names : resources.Names handle object known) :
      NamesUnlessNull resources family handle (some object)

/-- A handle of a family names at most one object. -/
theorem Names.unique {handle : Handle} {left right : ObjectId} {family : ResourceFamily}
    (namesLeft : resources.Names handle left family)
    (namesRight : resources.Names handle right family) : left = right := by
  cases family
  all_goals
    obtain ⟨_, foundLeft, rfl⟩ := namesLeft
    obtain ⟨_, foundRight, rfl⟩ := namesRight
    cases foundLeft.symm.trans foundRight
    rfl

theorem NamesUnlessNull.unique {family : Option ResourceFamily} {handle : Handle}
    {left right : Option ObjectId} (namesLeft : resources.NamesUnlessNull family handle left)
    (namesRight : resources.NamesUnlessNull family handle right) : left = right := by
  cases namesLeft with
  | null =>
    cases namesRight with
    | null => rfl
    | present notNull => exact absurd rfl notNull
  | present notNull isLeft namesLeft =>
    cases namesRight with
    | null => exact absurd rfl notNull
    | present _ isRight namesRight =>
      cases isLeft.symm.trans isRight
      rw [namesLeft.unique namesRight]

/-- An object that is there is named in the family. -/
theorem NamesUnlessNull.names {family : Option ResourceFamily} {handle : Handle}
    {found : Option ObjectId} (names : resources.NamesUnlessNull family handle found)
    {object : ObjectId} (member : object ∈ found) :
    ∃ known, family = some known ∧ resources.Names handle object known := by
  cases names with
  | null => cases member
  | present _ isFamily names =>
    cases member
    exact ⟨_, isFamily, names⟩

theorem isNull_iff {handle : Handle} : handle.isNull = true ↔ handle = Handle.null := by
  simp [Handle.isNull]

/-! ## Lookups -/

theorem bufferObject_eq_ok {handle : Handle} {object : ObjectId} :
    resources.bufferObject handle = .ok object ↔ resources.Names handle object .buffer := by
  simp only [bufferObject, bind_eq_ok, mapError_eq_ok, pure_eq_ok, Names]

theorem textureObject_eq_ok {handle : Handle} {object : ObjectId} :
    resources.textureObject handle = .ok object ↔ resources.Names handle object .texture := by
  simp only [textureObject, bind_eq_ok, mapError_eq_ok, pure_eq_ok, Names]

theorem vertexBinding_eq_ok {view : VertexBufferView} {binding : ObjectId × UInt64} :
    resources.vertexBinding view = .ok binding ↔
      resources.Names view.buffer binding.1 .buffer ∧ binding.2 = view.offset := by
  obtain ⟨object, start⟩ := binding
  simp only [vertexBinding, bind_eq_ok, pure_eq_ok, bufferObject_eq_ok]
  constructor
  · rintro ⟨_, named, paired⟩
    cases paired
    exact ⟨named, rfl⟩
  · rintro ⟨named, rfl⟩
    exact ⟨object, named, rfl⟩

/-- A word is admitted exactly with what it stands for. -/
@[simp] theorem admitted_eq_ok {α : Type} {attempt : Option α} {field : RecordField}
    {word : UInt32} {value : α} :
    admitted attempt field word offset = .ok value ↔ attempt = some value := by
  cases attempt <;> simp [admitted]

theorem barrierObject_eq_ok {handle : Handle} {kind : UInt32} {object : ObjectId} :
    resources.barrierObject offset handle kind = .ok object ↔
      ∃ family, barrierFamily? kind = some family ∧ resources.Names handle object family := by
  simp only [barrierObject, bind_eq_ok, admitted_eq_ok, barrierFamily?, Option.map_eq_some_iff]
  constructor
  · rintro ⟨kind, known, found⟩
    cases kind with
    | buffer => exact ⟨_, ⟨_, known, rfl⟩, bufferObject_eq_ok.mp found⟩
    | texture => exact ⟨_, ⟨_, known, rfl⟩, textureObject_eq_ok.mp found⟩
  · rintro ⟨_, ⟨kind, known, rfl⟩, named⟩
    refine ⟨kind, known, ?_⟩
    cases kind with
    | buffer => exact bufferObject_eq_ok.mpr named
    | texture => exact textureObject_eq_ok.mpr named

theorem optionalBarrierObject_eq_ok {handle : Handle} {kind : UInt32} {object : Option ObjectId} :
    resources.optionalBarrierObject offset handle kind = .ok object ↔
      resources.NamesUnlessNull (barrierFamily? kind) handle object := by
  unfold optionalBarrierObject
  by_cases null : handle = Handle.null
  · rw [if_pos (isNull_iff.mpr null), null]
    constructor
    · rintro ⟨⟩
      exact .null
    · intro named
      cases named with
      | null => rfl
      | present notNull => exact absurd rfl notNull
  · rw [if_neg (fun isNull => null (isNull_iff.mp isNull)), map_eq_ok]
    constructor
    · rintro ⟨found, resolved, rfl⟩
      obtain ⟨family, known, named⟩ := barrierObject_eq_ok.mp resolved
      exact .present null known named
    · intro named
      cases named with
      | null => exact absurd rfl null
      | present _ known named => exact ⟨_, barrierObject_eq_ok.mpr ⟨_, known, named⟩, rfl⟩

/-! ## Attachments -/

theorem namesTexture_of_colorObject {attachment : ColorAttachment} {object : ObjectId}
    (found : resources.colorObject offset attachment = .ok object) :
    resources.Names attachment.texture object .texture := by
  simp only [colorObject, bind_eq_ok, pure_eq_ok] at found
  obtain ⟨_, named, _, _, _, _, rfl⟩ := found
  exact textureObject_eq_ok.mp named

theorem namesUnlessNull_of_depthObject {header : RenderPassHeader} {object : Option ObjectId}
    (found : resources.depthObject offset header = .ok object) :
    resources.NamesUnlessNull (some .texture) header.depth object := by
  unfold depthObject at found
  split at found
  · rename_i null
    rw [isNull_iff.mp null]
    cases found
    exact .null
  · rename_i notNull
    simp only [bind_eq_ok, pure_eq_ok] at found
    obtain ⟨_, named, _, _, _, _, rfl⟩ := found
    exact .present (fun null => notNull (isNull_iff.mpr null)) rfl (textureObject_eq_ok.mp named)

/-! ## Barriers -/

/-- What a transition becomes: the object that it names, its subresource, and both states. -/
inductive Transitions (resources : Resources) : TransitionBarrier → BarrierCall → Prop
  | intro {barrier : TransitionBarrier} {family : ResourceFamily} {object : ObjectId}
      {before after : ResourceState} (known : barrierFamily? barrier.kind = some family)
      (names : resources.Names barrier.resource object family)
      (isBefore : before.bits = barrier.before) (isAfter : after.bits = barrier.after) :
      Transitions resources barrier (.transition object barrier.subresource before after)

/-- What an unordered access barrier becomes: the object that it names, or every resource. -/
inductive OrdersAccess (resources : Resources) : UnorderedAccessBarrier → BarrierCall → Prop
  | intro {barrier : UnorderedAccessBarrier} {object : Option ObjectId}
      (names : resources.NamesUnlessNull (barrierFamily? barrier.kind) barrier.resource object) :
      OrdersAccess resources barrier (.unorderedAccess object)

/-- What an aliasing barrier becomes: on either side the object that it names, or every
resource. -/
inductive Aliases (resources : Resources) : AliasingBarrier → BarrierCall → Prop
  | intro {barrier : AliasingBarrier} {before after : Option ObjectId}
      (namesBefore :
        resources.NamesUnlessNull (barrierFamily? barrier.beforeKind) barrier.before before)
      (namesAfter :
        resources.NamesUnlessNull (barrierFamily? barrier.afterKind) barrier.after after) :
      Aliases resources barrier (.aliasing before after)

theorem Transitions.unique : Relator.RightUnique resources.Transitions := by
  rintro barrier _ _ ⟨knownLeft, namesLeft, beforeLeft, afterLeft⟩
    ⟨knownRight, namesRight, beforeRight, afterRight⟩
  cases knownLeft.symm.trans knownRight
  cases namesLeft.unique namesRight
  cases (FlagSet.ofBits?_eq_some_iff.mpr beforeLeft).symm.trans
    (FlagSet.ofBits?_eq_some_iff.mpr beforeRight)
  cases (FlagSet.ofBits?_eq_some_iff.mpr afterLeft).symm.trans
    (FlagSet.ofBits?_eq_some_iff.mpr afterRight)
  rfl

theorem OrdersAccess.unique : Relator.RightUnique resources.OrdersAccess := by
  rintro barrier _ _ ⟨namesLeft⟩ ⟨namesRight⟩
  rw [namesLeft.unique namesRight]

theorem Aliases.unique : Relator.RightUnique resources.Aliases := by
  rintro barrier _ _ ⟨beforeLeft, afterLeft⟩ ⟨beforeRight, afterRight⟩
  rw [beforeLeft.unique beforeRight, afterLeft.unique afterRight]

/-- The barriers that a record becomes when their handles resolve and their words are known. -/
inductive Resolves (resources : Resources) (call : BarrierCall) : Prop
  | transition {barrier : TransitionBarrier} (becomes : resources.Transitions barrier call)
  | order {barrier : UnorderedAccessBarrier} (becomes : resources.OrdersAccess barrier call)
  | switch {barrier : AliasingBarrier} (becomes : resources.Aliases barrier call)

theorem transitionCall_eq_ok {barrier : TransitionBarrier} {call : BarrierCall} :
    resources.transitionCall offset barrier = .ok call ↔ resources.Transitions barrier call := by
  simp only [transitionCall, bind_eq_ok, pure_eq_ok, admitted_eq_ok, barrierObject_eq_ok,
    FlagSet.ofBits?_eq_some_iff]
  constructor
  · rintro ⟨object, ⟨family, known, named⟩, before, isBefore, after, isAfter, rfl⟩
    exact .intro known named isBefore isAfter
  · rintro ⟨known, named, isBefore, isAfter⟩
    exact ⟨_, ⟨_, known, named⟩, _, isBefore, _, isAfter, rfl⟩

theorem unorderedAccessCall_eq_ok {barrier : UnorderedAccessBarrier} {call : BarrierCall} :
    resources.unorderedAccessCall offset barrier = .ok call ↔
      resources.OrdersAccess barrier call := by
  simp only [unorderedAccessCall, bind_eq_ok, pure_eq_ok, optionalBarrierObject_eq_ok]
  constructor
  · rintro ⟨_, named, rfl⟩
    exact .intro named
  · rintro ⟨named⟩
    exact ⟨_, named, rfl⟩

theorem aliasingCall_eq_ok {barrier : AliasingBarrier} {call : BarrierCall} :
    resources.aliasingCall offset barrier = .ok call ↔ resources.Aliases barrier call := by
  simp only [aliasingCall, bind_eq_ok, pure_eq_ok, optionalBarrierObject_eq_ok]
  constructor
  · rintro ⟨_, namedBefore, _, namedAfter, rfl⟩
    exact .intro namedBefore namedAfter
  · rintro ⟨namedBefore, namedAfter⟩
    exact ⟨_, namedBefore, _, namedAfter, rfl⟩

end Resources

end CommandStream
