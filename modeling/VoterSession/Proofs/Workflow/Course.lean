import VoterSession.Proofs.Workflow.Rows
set_option autoImplicit false

/-!
Places on the course of a tag. No method is on a course twice, so what comes before a method is fixed.
-/
namespace VoterSession.AuthTag

variable {tag : AuthTag} {method prior : Method} {front back : List Method}

theorem course_nodup (tag : AuthTag) : tag.course.Nodup := by
  cases tag <;> decide

theorem place_unique {front' back' : List Method} (place : tag.course = front ++ method :: back)
    (place' : tag.course = front' ++ method :: back') : front = front' ∧ back = back' := by
  have once := tag.course_nodup
  rw [place, List.nodup_append, List.nodup_cons] at once
  obtain ⟨_, ⟨not_after, _⟩, apart⟩ := once
  have not_before : method ∉ front := fun member =>
    apart method member method List.mem_cons_self rfl
  rw [place, List.append_cons_inj_of_notMem not_before not_after] at place'
  exact ⟨place'.1, place'.2.2⟩

theorem follows_place (follows : tag.Follows prior method) (place : tag.course = front ++ method :: back) :
    prior = method ∧ method.polls = true ∨ ∃ front', front = front' ++ [prior] := by
  obtain again | ⟨before, after, hcourse⟩ := follows
  · exact .inl again
  · right
    have place' : tag.course = (before ++ [prior]) ++ method :: after := by
      rw [← hcourse]
      simp
    exact ⟨before, (place_unique place place').1⟩

theorem follows_vote (follows : tag.Follows .vote method) : method = .verify := by
  revert follows
  cases tag <;> cases method <;> decide

theorem follows_before_verify (follows : tag.Follows prior .verify) : prior = .vote ∨ prior = .verify := by
  revert follows
  cases tag <;> cases prior <;> decide

theorem idCard_not_follows (prior : Method) : ¬ idCard.Follows prior .voterChoices := by
  cases prior <;> decide

theorem head_of_opens {kind : WorkflowKind} {transport : Transport}
    (opens : kind.Opens method transport tag) : tag.course.head? = some method := by
  cases method <;> simp only [WorkflowKind.Opens] at opens
  case authenticate => obtain ⟨rfl | rfl, _⟩ := opens <;> rfl
  case challenge => subst opens; rfl
  case voterChoices => obtain ⟨rfl, _⟩ := opens; rfl

theorem opens_place {kind : WorkflowKind} {transport : Transport}
    (opens : kind.Opens method transport tag) (place : tag.course = front ++ method :: back) :
    front = [] := by
  obtain ⟨rest, place'⟩ := List.head?_eq_some_iff.1 (head_of_opens opens)
  have first : tag.course = [] ++ method :: rest := place'
  exact (place_unique place first).1

/-- The head of the course starts a session, on a connection that tells the voter where no step did. -/
theorem opens_of_head {kind : WorkflowKind} {transport : Transport} (resolved : tag.isResolved = true)
    (head : tag.course.head? = some method) (serving : kind = .serving tag method)
    (connected : tag = .idCard → transport = .tls) : kind.Opens method transport tag := by
  cases tag with
  | unresolved => cases resolved
  | idCard =>
    cases head
    exact ⟨rfl, connected rfl⟩
  | webEid =>
    cases head
    rfl
  | mobileId =>
    cases head
    exact ⟨.inl rfl, serving⟩
  | smartId =>
    cases head
    exact ⟨.inr rfl, serving⟩

end VoterSession.AuthTag
