import VirtualNpu.Proofs.YamlCollections
import VirtualNpu.Yaml.Node

/-!
The tokens of records as events, and the events as nodes.  What is said of a value, of the fields
of a mapping and of the items of a sequence is said of the two at once.
-/

namespace VirtualNpu
namespace Yaml

open Event (Handles Place)

/-! ### Runs of events -/

/-- Whether reading goes from one list of places and tokens to another through these events. -/
inductive Steps (handles : Handles) :
    List Place → List Token → List Event → List Place → List Token → Prop
  | none (places : List Place) (tokens : List Token) : Steps handles places tokens [] places tokens
  | more {place : Place} {outer places final : List Place} {tokens rest last : List Token}
      {event : Event} {events : List Event}
      (first : Event.step handles outer place tokens = some (event, places, rest))
      (later : Steps handles places rest events final last) :
      Steps handles (place :: outer) tokens (event :: events) final last

theorem Steps.append {handles : Handles} {places between final : List Place}
    {tokens rest last : List Token} {events events' : List Event}
    (first : Steps handles places tokens events between rest)
    (second : Steps handles between rest events' final last) :
    Steps handles places tokens (events ++ events') final last := by
  induction first with
  | none => exact second
  | more step _ ih => exact .more step (ih second)

theorem run_of_steps {handles : Handles} {places : List Place} {tokens last : List Token}
    {events : List Event} (steps : Steps handles places tokens events [] last) {fuel : Nat}
    (enough : events.length ≤ fuel) (read : List Event) :
    Event.run handles fuel read places tokens = some (events.reverse ++ read, last) := by
  generalize reached : ([] : List Place) = final at steps
  induction steps generalizing fuel read with
  | none places tokens =>
      subst reached
      cases fuel <;> rfl
  | more first _ ih =>
      cases fuel with
      | zero => cases enough
      | succ fuel =>
          rw [Event.run, first]
          dsimp only
          rw [ih (Nat.le_of_succ_le_succ enough) _ reached, List.reverse_cons, List.append_assoc]
          rfl

/-! ### Values -/

/-- What may come behind the value of a field: a further field, or the end of the mapping. -/
inductive EndsField : List Token → Prop
  | key (rest : List Token) : EndsField (.key :: rest)
  | blockEnd (rest : List Token) : EndsField (.blockEnd :: rest)

/-- Whether some events leave this node behind. -/
def Builds (events : List Event) (node : Node) : Prop :=
  ∀ (progress : Progress) (more : List Event),
    progress.run (events ++ more) = (progress.place node).run more

/-- Whether some tokens behind the mark of a value are this node. -/
def IsNode (read : List Token) (node : Node) : Prop :=
  ∃ events : List Event, events.length ≤ read.length + 2 ∧ Builds events node ∧
    ∀ (handles : Handles) (outer : List Place) {rest : List Token}, EndsField rest →
      Steps handles (.blockValue :: outer) (.value :: (read ++ rest)) events
        (.blockKey :: outer) rest

theorem isNode_scalar (style : Style) (text : String) :
    IsNode [.scalar style text] (.scalar none style text) := by
  refine ⟨[.scalar none none style text], Nat.le_add_right 1 2, ?_, ?_⟩
  · intro progress more
    rfl
  · intro handles outer rest _
    exact .more rfl (.none _ _)

theorem isNode_emptySequence :
    IsNode [.flowSequenceStart, .flowSequenceEnd] (.sequence none []) := by
  refine ⟨[.sequenceStart none none, .sequenceEnd], by decide, ?_, ?_⟩
  · intro progress more
    rfl
  · intro handles outer rest _
    exact .more rfl (.more rfl (.none _ _))

/-! ### Fields -/

def BuildsEntries (events : List Event) (entries : List (Node × Node)) : Prop :=
  ∀ (tag : Option String) (done : List (Node × Node)) (outer : List Frame) (root : Option Node)
    (anchors : Anchors) (more : List Event),
    Progress.run ⟨.mapping none tag done none :: outer, root, anchors⟩ (events ++ more) =
      Progress.run ⟨.mapping none tag (entries.reverse ++ done) none :: outer, root, anchors⟩ more

def AreEntries (read : List Token) (entries : List (Node × Node)) : Prop :=
  ∃ events : List Event, events.length ≤ read.length ∧ BuildsEntries events entries ∧
    ∀ {rest : List Token}, EndsField rest → EndsField (read ++ rest) ∧
      ∀ (handles : Handles) (outer : List Place),
        Steps handles (.blockKey :: outer) (read ++ rest) events (.blockKey :: outer) rest

theorem areEntries_nil : AreEntries [] [] :=
  ⟨[], Nat.le_refl 0, fun _ _ _ _ _ _ => rfl, fun ends => ⟨ends, fun _ _ => .none _ _⟩⟩

def keyNode (name : List Char) : Node := .scalar none .plain (String.ofList name)

theorem areEntries_cons {name : List Char} {read behind : List Token} {node : Node}
    {entries : List (Node × Node)} (value : IsNode read node)
    (others : AreEntries behind entries) :
    AreEntries (fieldTokens name read ++ behind) ((keyNode name, node) :: entries) := by
  obtain ⟨events, few, builds, goes⟩ := value
  obtain ⟨events', few', builds', goes'⟩ := others
  refine ⟨.scalar none none .plain (String.ofList name) :: (events ++ events'), ?_, ?_, ?_⟩
  · simp only [fieldTokens, List.length_cons, List.length_append]
    omega
  · intro tag done outer root anchors more
    rw [List.cons_append, List.append_assoc]
    change Progress.run ⟨.mapping none tag done (some (keyNode name)) :: outer, root, anchors⟩ _ = _
    rw [builds]
    change Progress.run ⟨.mapping none tag ((keyNode name, node) :: done) none :: outer, root,
      anchors⟩ _ = _
    rw [builds', List.reverse_cons, List.append_assoc]
    rfl
  · intro rest ends
    obtain ⟨further, steps⟩ := goes' ends
    refine ⟨.key _, fun handles outer => ?_⟩
    rw [List.append_assoc]
    exact .more rfl ((goes handles outer further).append (steps handles outer))

/-! ### Items -/

def BuildsItems (events : List Event) (items : List Node) : Prop :=
  ∀ (tag : Option String) (done : List Node) (outer : List Frame) (root : Option Node)
    (anchors : Anchors) (more : List Event),
    Progress.run ⟨.sequence none tag done :: outer, root, anchors⟩ (events ++ more) =
      Progress.run ⟨.sequence none tag (items.reverse ++ done) :: outer, root, anchors⟩ more

def AreItems (read : List Token) (items : List Node) : Prop :=
  ∃ events : List Event, events.length ≤ read.length ∧ BuildsItems events items ∧
    ∀ (handles : Handles) (outer : List Place) (rest : List Token),
      Steps handles (.looseItem :: outer) (read ++ rest) events (.looseItem :: outer) rest

theorem areItems_nil : AreItems [] [] :=
  ⟨[], Nat.le_refl 0, fun _ _ _ _ _ _ => rfl, fun _ _ _ => .none _ _⟩

theorem areItems_cons {fields behind : List Token} {entries : List (Node × Node)}
    {items : List Node} (first : AreEntries fields entries) (others : AreItems behind items) :
    AreItems (itemTokens fields ++ behind) (.mapping none entries :: items) := by
  obtain ⟨events, few, builds, goes⟩ := first
  obtain ⟨events', few', builds', goes'⟩ := others
  refine ⟨.mappingStart none none :: (events ++ .mappingEnd :: events'), ?_, ?_, ?_⟩
  · simp only [itemTokens, List.length_cons, List.length_append, List.length_nil]
    omega
  · intro tag done outer root anchors more
    rw [List.cons_append, List.append_assoc]
    change Progress.run ⟨.mapping none none [] none :: .sequence none tag done :: outer, root,
      anchors⟩ _ = _
    rw [builds, List.append_nil, List.cons_append]
    change Progress.run
      ⟨.sequence none tag (.mapping none entries.reverse.reverse :: done) :: outer, root, anchors⟩
        _ = _
    rw [builds', List.reverse_reverse, List.reverse_cons, List.append_assoc]
    rfl
  · intro handles outer rest
    obtain ⟨_, steps⟩ := goes (.blockEnd (behind ++ rest))
    have inside := steps handles (.looseItem :: outer)
    have whole : itemTokens fields ++ behind ++ rest = Token.blockEntry ::
        .blockMappingStart :: (fields ++ .blockEnd :: (behind ++ rest)) := by
      simp [itemTokens]
    rw [whole]
    exact .more rfl (inside.append (.more rfl (goes' handles outer rest)))

theorem isNode_items {fields behind : List Token} {items : List Node}
    (all : AreItems (itemTokens fields ++ behind) items) :
    IsNode (itemTokens fields ++ behind) (.sequence none items) := by
  obtain ⟨events, few, builds, goes⟩ := all
  refine ⟨.sequenceStart none none :: (events ++ [.sequenceEnd]), ?_, ?_, ?_⟩
  · simp only [List.length_cons, List.length_append, List.length_nil] at few ⊢
    omega
  · intro progress more
    obtain ⟨frames, root, anchors⟩ := progress
    rw [List.cons_append, List.append_assoc]
    change Progress.run ⟨.sequence none none [] :: frames, root, anchors⟩ _ = _
    rw [builds, List.append_nil]
    change Progress.run (Progress.place (.sequence none items.reverse.reverse)
      ⟨frames, root, anchors⟩) more = _
    rw [List.reverse_reverse]
  · intro handles outer rest ends
    refine .more rfl ((goes handles (.blockKey :: outer) rest).append (.more ?_ (.none _ _)))
    cases ends with
    | key | blockEnd => rfl

/-! ### A document -/

theorem nodeEvents?_of_steps {handles : Handles} {read : List Token} {events : List Event}
    (steps : Steps handles [.blockKey] (read ++ [.blockEnd]) events [.blockKey] [.blockEnd])
    (few : events.length ≤ read.length) :
    Event.nodeEvents? handles (.blockMappingStart :: (read ++ [.blockEnd])) =
      some (.mappingStart none none :: (events ++ [.mappingEnd]), []) := by
  have closes : Steps handles [.blockKey] (read ++ [.blockEnd]) (events ++ [.mappingEnd]) [] [] :=
    steps.append (.more rfl (.none _ _))
  have first : Event.readNode handles true false []
      (.blockMappingStart :: (read ++ [.blockEnd])) =
      some (.mappingStart none none, [.blockKey], read ++ [.blockEnd]) := rfl
  unfold Event.nodeEvents?
  rw [first]
  simp only [Option.bind_eq_bind, Option.bind_some]
  rw [run_of_steps closes]
  · simp
  · simp only [List.length_cons, List.length_append, List.length_nil]
    omega

theorem document_of_entries {read : List Token} {entries : List (Node × Node)}
    (all : AreEntries read entries) :
    ∃ document : Document, document.root = some (.mapping none entries) ∧
      (Event.ofTokens? (.blockMappingStart :: (read ++ [.blockEnd]))).bind Document.ofEvents? =
        some document := by
  obtain ⟨events, few, builds, goes⟩ := all
  obtain ⟨_, steps⟩ := goes (.blockEnd [])
  have listed : Event.ofTokens? (.blockMappingStart :: (read ++ [.blockEnd])) =
      some (.mappingStart none none :: (events ++ [.mappingEnd])) := by
    have whole : Event.documentEvents? (.blockMappingStart :: (read ++ [.blockEnd])) = _ :=
      nodeEvents?_of_steps (steps Event.standardHandles []) few
    rw [Event.ofTokens?, whole]
    · rfl
    · exact List.cons_ne_nil _ _
  have placed : Progress.run ⟨[], none, ⟨[], [], []⟩⟩
      (.mappingStart none none :: (events ++ [.mappingEnd])) =
      some ⟨[], some (.mapping none entries), ⟨[], [], []⟩⟩ := by
    change Progress.run ⟨[.mapping none none [] none], none, ⟨[], [], []⟩⟩ _ = _
    rw [builds, List.append_nil]
    change some (Progress.mk [] (some (.mapping none entries.reverse.reverse)) ⟨[], [], []⟩) = _
    rw [List.reverse_reverse]
  rw [listed, Option.bind_some, Document.ofEvents?, placed]
  exact ⟨_, rfl, rfl⟩

end Yaml
end VirtualNpu
