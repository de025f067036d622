import Roster.Proofs.Resource.Rule

namespace Roster.ResourceType

def mentions : (kind : ResourceType) → kind.Entity → List Uuid
  | .user, _ => []
  | .group, g => (Group.members g).map Member.value
  | .serviceCredential, c => (Credential.ownerId c).toList
  | .custom _, _ => []

variable {kind : ResourceType} {users : Store Uuid User} {a b : kind.Entity} {user : Uuid}

theorem isSome_of_mem_mentions_make {id : Uuid} {params : kind.Params}
    (h : kind.make users id params = .ok a) (huser : user ∈ kind.mentions a) :
    (users.get? user).isSome := by
  have haccept := (build_of_make h).2
  cases kind with
  | user => nomatch huser
  | group =>
    obtain ⟨m, hm, rfl⟩ := List.mem_map.1 huser
    exact Group.known_eq_ok_iff.1 haccept m hm
  | serviceCredential => exact Credential.known_eq_ok_iff.1 haccept user (Option.mem_toList.1 huser)
  | custom name => nomatch huser

theorem mem_mentions_revise {change : kind.Revision} (h : kind.revise users change a = .ok b)
    (huser : user ∈ kind.mentions b) : user ∈ kind.mentions a ∨ (users.get? user).isSome := by
  cases kind with
  | user => nomatch huser
  | group =>
    obtain ⟨-, hknown, rfl⟩ := Group.revise_eq_ok_iff.1 h
    obtain ⟨m, hm, rfl⟩ := List.mem_map.1 huser
    cases hmembers : GroupUpdate.members change with
    | none => exact .inl (List.mem_map_of_mem (by simpa [hmembers] using hm))
    | some members => exact .inr (hknown members hmembers m (by simpa [hmembers] using hm))
  | serviceCredential =>
    obtain ⟨-, -, -, hknown, rfl⟩ := Credential.revise_eq_ok_iff.1 h
    rcases Option.or_eq_some_iff.1 (Option.mem_toList.1 huser) with hnew | ⟨-, hold⟩
    · exact .inr (hknown user hnew)
    · exact .inl (Option.mem_toList.2 hold)
  | custom name => nomatch huser

end Roster.ResourceType
