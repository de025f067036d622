import Roster.Proofs.Directory.All
import Roster.Proofs.Resource.Mention

namespace Roster.Directory

variable {generate : Nat → Uuid} {d d' : Directory} {n : Notice} {ns : List Notice}

theorem Noted.isSome_of_created {kind : ResourceType} {id : Uuid}
    (h : Noted generate d (.created kind id) d') : (d'.find? kind id).isSome := by
  cases h with
  | create => simp

theorem Noted.isSome_or_created (h : Noted generate d n d') {kind : ResourceType} {id : Uuid}
    (hid : (d'.find? kind id).isSome) : (d.find? kind id).isSome ∨ n = .created kind id := by
  cases h with
  | stay => exact .inl hid
  | draw => exact .inl (by simpa using hid)
  | create =>
    rw [find?_drawn, isSome_find?_insert] at hid
    rcases hid with ⟨rfl, rfl⟩ | hid
    · exact .inr rfl
    · exact .inl hid
  | update hfind =>
    rcases (d.isSome_find?_insert _).1 hid with ⟨rfl, rfl⟩ | hid
    · exact .inl (Option.isSome_of_eq_some hfind)
    · exact .inl hid
  | delete => exact .inl (d.isSome_find?_erase.1 hid).2

theorem Noted.isSome_or_deleted (h : Noted generate d n d') {kind : ResourceType} {id : Uuid}
    (hid : (d.find? kind id).isSome) : (d'.find? kind id).isSome ∨ n = .deleted kind id := by
  cases h with
  | stay => exact .inl hid
  | draw => exact .inl (by simpa using hid)
  | create =>
    rw [find?_drawn]
    exact .inl ((d.isSome_find?_insert _).2 (.inr hid))
  | update => exact .inl ((d.isSome_find?_insert _).2 (.inr hid))
  | @delete kind' id' =>
    by_cases hsame : kind = kind' ∧ id = id'
    · obtain ⟨rfl, rfl⟩ := hsame
      exact .inr rfl
    · exact .inl (d.isSome_find?_erase.2 ⟨hsame, hid⟩)

/-- The notices account for what is stored, and for the users that it mentions. -/
structure Account (ns : List Notice) (d : Directory) : Prop where
  created : ∀ kind id, (d.find? kind id).isSome → .created kind id ∈ ns
  stored : ∀ kind id, .created kind id ∈ ns → .deleted kind id ∉ ns → (d.find? kind id).isSome
  mentioned : d.All fun kind _ a => ∀ user ∈ kind.mentions a, .created .user user ∈ ns

theorem account_empty (customTypes : List String) : Account [] (empty customTypes) where
  created kind id h := by simp at h
  stored kind id h := by simp at h
  mentioned := all_empty customTypes

theorem Account.noted (hd : Account ns d) (h : Noted generate d n d') : Account (ns ++ [n]) d' where
  created kind id hid := by
    rcases h.isSome_or_created hid with hbefore | rfl
    · exact List.mem_append_left _ (hd.created kind id hbefore)
    · exact List.mem_append_right _ List.mem_cons_self
  stored kind id hcreated hdeleted := by
    rw [List.mem_append, List.mem_singleton, not_or] at hdeleted
    rcases List.mem_append.1 hcreated with hbefore | hnow
    · exact (h.isSome_or_deleted (hd.stored kind id hbefore hdeleted.1)).resolve_right
        fun heq => hdeleted.2 heq.symm
    · rw [List.mem_singleton] at hnow
      subst hnow
      exact h.isSome_of_created
  mentioned := by
    have hbefore : d.All fun kind _ a => ∀ user ∈ kind.mentions a, .created .user user ∈ ns ++ [n] :=
      fun kind id a ha user huser => List.mem_append_left _ (hd.mentioned kind id a ha user huser)
    have hknown : ∀ user, (d.users.get? user).isSome → .created .user user ∈ ns ++ [n] :=
      fun user huser => List.mem_append_left _ (hd.created .user user huser)
    -- Who is newly mentioned was looked up among the users, and the creation of all that is stored has been told.
    refine h.step.all hbefore (fun hmake user huser => ?_) (fun ha hrevise user huser => ?_)
    · exact hknown user (ResourceType.isSome_of_mem_mentions_make hmake huser)
    · exact (ResourceType.mem_mentions_revise hrevise huser).elim (ha user) (hknown user)

end Roster.Directory
