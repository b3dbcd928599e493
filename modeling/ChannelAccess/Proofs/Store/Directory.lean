import ChannelAccess.Directory
import ChannelAccess.Proofs.Resolver.Misses
import ChannelAccess.Proofs.Store.Answers

/-!
# A directory answers from facts

The store in memory, with batched reads that leave nothing out, is a store that
answers from facts.
-/

namespace ChannelAccess

set_option autoImplicit false

namespace Directory

def facts (directory : Directory) : Facts where
  grants := directory.grantsOf
  channel := directory.channel?
  overrides := directory.overridesOf
  owner := directory.owner

/-- The replies of a directory whose batched reads leave nothing out. -/
def fullReply (query : StoreQuery) (directory : Directory) : query.Reply × Directory :=
  reply query { directory with sparse := false }

theorem contains_channels_of (directory : Directory) {channels : List ChannelId}
    {channel : ChannelId} (asked : channel ∈ channels) :
    (directory.channelsOf channels).contains channel = (directory.channel? channel).isSome := by
  rw [Std.ExtTreeMap.contains_eq_isSome_getElem?, channelsOf, IdMap.ofEntries,
    get_foldl_insert directory.channel?]
  · split
    · rfl
    case isFalse absent =>
      cases found : directory.channel? channel with
      | none => simp
      | some known =>
          refine absurd (List.mem_map.mpr ⟨(channel, known), ?_, rfl⟩) absent
          rw [List.mem_filterMap]
          exact ⟨channel, asked, by rw [found, Option.map_some]⟩
  · intro entry member
    obtain ⟨channel, _, same⟩ := List.mem_filterMap.mp member
    obtain ⟨known, found, rfl⟩ := Option.map_eq_some_iff.mp same
    exact found

theorem get_filed_all {α : Type} (value : Uuid → List α) {ids : List Uuid} {id : Uuid}
    (asked : id ∈ ids) :
    (IdMap.ofEntries (ids.map fun id => (id, value id)))[id]?.getD [] = value id := by
  rw [of_entries_map value, get_gather, if_pos asked]
  rfl

theorem overrides_of_change_first {channel other : ChannelId} (apart : other ≠ channel)
    {principal : Principal} {change : Override → Override}
    (stays : ∀ row, (change row).channel = row.channel) {rows changed : List Override}
    {row : Override} (found : changeFirst channel principal change rows = some (row, changed)) :
    changed.filter (fun row => row.channel == other) =
      rows.filter fun row => row.channel == other := by
  induction rows generalizing changed with
  | nil => simp [changeFirst] at found
  | cons first rest ih =>
      rw [changeFirst] at found
      split at found
      case isTrue concerned =>
        obtain ⟨_, rfl⟩ := Prod.ext_iff.mp (Option.some.inj found)
        have here : first.channel = channel := by
          simpa using (Bool.and_eq_true_iff.mp concerned).1
        have elsewhere : (first.channel == other) = false := by
          rw [here]
          simpa using apart.symm
        simp [stays, elsewhere]
      case isFalse =>
        obtain ⟨⟨inner, rows⟩, foundRest, same⟩ := Option.map_eq_some_iff.mp found
        obtain ⟨rfl, rfl⟩ := Prod.ext_iff.mp same
        simp only [List.filter_cons, ih foundRest]

theorem facts_set_override (directory : Directory) (channel : ChannelId) (principal : Principal)
    (allow deny : Mask) :
    directory.facts.AlikeButOverrides channel
      (directory.setOverride channel principal allow deny).2.facts := by
  have overrides : ∀ other, other ≠ channel →
      (directory.setOverride channel principal allow deny).2.overridesOf other =
        directory.overridesOf other := by
    intro other apart
    unfold setOverride
    dsimp only
    split
    case h_1 row rows found =>
      refine overrides_of_change_first apart ?_ found
      exact fun _ => rfl
    case h_2 =>
      simp [overridesOf, List.filter_append, apart.symm]
  unfold setOverride at overrides ⊢
  dsimp only at overrides ⊢
  split
  case h_1 row rows found =>
    simp only [found] at overrides
    exact ⟨rfl, rfl, overrides, rfl⟩
  case h_2 absent =>
    simp only [absent] at overrides
    exact ⟨rfl, rfl, overrides, rfl⟩

theorem facts_delete_override {directory after : Directory} {channel : ChannelId}
    {principal : Principal} (deleted : directory.deleteOverride? channel principal = some after) :
    directory.facts.AlikeButOverrides channel after.facts := by
  obtain ⟨_, same⟩ := Option.ite_none_right_eq_some.mp deleted
  rw [← Option.some.inj same]
  refine ⟨rfl, rfl, ?_, rfl⟩
  intro other apart
  simp only [facts, overridesOf, List.filter_filter]
  apply List.filter_congr
  intro row _
  by_cases here : row.channel = other
  · simp [concerns, here, apart]
  · simp [here]

theorem reply_channel (directory : Directory) (channel : ChannelId) :
    directory.reply (.channel channel) =
      (match directory.facts.channel channel with
        | some found => .ok found
        | none => .error (.channelNotFound channel), directory) := by
  rw [reply, facts]
  dsimp only
  cases directory.channel? channel <;> rfl

theorem full_reply_answers : StoreAnswers fullReply facts where
  grants _ _ := rfl
  grantsMany directory users := ⟨_, rfl, fun _ asked => get_filed_all directory.grantsOf asked⟩
  channel directory channel := by
    rw [fullReply, reply_channel]
    rfl
  channelMany directory channels :=
    ⟨_, rfl, fun _ asked => contains_channels_of directory asked⟩
  overrides _ _ := rfl
  overridesMany directory channels :=
    ⟨_, rfl, fun _ asked => get_filed_all directory.overridesOf asked⟩
  owner _ := rfl
  isOwner _ _ := rfl
  reads query directory reads := by
    cases query with
    | channel channel =>
        rw [fullReply, reply_channel]
        rfl
    | setOverride channel principal allow deny => simp [StoreQuery.reads] at reads
    | deleteOverride channel principal => simp [StoreQuery.reads] at reads
    | _ => rfl
  setOverride directory channel principal allow deny :=
    ⟨facts_set_override { directory with sparse := false } channel principal allow deny,
      fun problem failed => by simp [fullReply, reply] at failed⟩
  deleteOverride directory channel principal := by
    rw [fullReply, reply]
    cases deleted : ({ directory with sparse := false } : Directory).deleteOverride? channel
        principal with
    | none => exact ⟨⟨rfl, rfl, fun _ _ => rfl, rfl⟩, fun _ _ => rfl⟩
    | some after =>
        have edited := facts_delete_override deleted
        exact ⟨edited, fun problem failed => by simp at failed⟩

end Directory

end ChannelAccess
