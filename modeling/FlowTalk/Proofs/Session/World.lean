import FlowTalk.Proofs.Flow.Valid
import FlowTalk.Session.World

/-! Changes that take fresh ids: they add one node or one edge, or leave the flow as it is. -/
namespace FlowTalk.World

variable {w : World} {label source target : Text} {position : Position} {v : Json}

/-- A node is added, or an error leaves the flow as it is. -/
theorem createAt_cases (label : Text) (position : Position) (w : World) :
    (∃ e, (w.createAt label position).1 = .error e ∧
        (w.createAt label position).2.flow = w.flow) ∨
      ∃ n, (w.createAt label position).1 = .ok n ∧ n.label = label ∧
        w.flow.addNode n = .ok (w.createAt label position).2.flow := by
  cases h : w.flow.addNode ⟨w.supply.freshNodeId.1, label, position⟩ with
  | error e => exact Or.inl ⟨e, by simp [createAt, h], by simp [createAt, h]⟩
  | ok g => exact Or.inr ⟨_, by simp [createAt, h], rfl, h.trans (by simp [createAt, h])⟩

/-- Where there is no edge yet one is added, or an error leaves the flow as it is. -/
theorem connect_cases (source target : Text) (w : World) :
    (w.connect source target).2.flow = w.flow ∨
      w.flow.edgesFrom source target = [] ∧
        ∃ e, (w.connect source target).1 = .ok (e, true) ∧ e.source = source ∧
          e.target = target ∧ w.flow.addEdge e = .ok (w.connect source target).2.flow := by
  cases hes : w.flow.edgesFrom source target with
  | cons e es => exact Or.inl (by simp [connect, hes])
  | nil =>
    cases hs : w.flow.hasNode source with
    | false => exact Or.inl (by simp [connect, hes, hs])
    | true =>
      cases ht : w.flow.hasNode target with
      | false => exact Or.inl (by simp [connect, hes, hs, ht])
      | true =>
        cases h : w.flow.addEdge ⟨w.supply.freshEdgeId.1, source, target⟩ with
        | error e => exact Or.inl (by simp [connect, hes, hs, ht, h])
        | ok g =>
          exact Or.inr ⟨rfl, _, by simp [connect, hes, hs, ht, h], rfl, rfl,
            h.trans (by simp [connect, hes, hs, ht, h])⟩

theorem createAtValue_cases (label : Text) (v : Json) (w : World) :
    (∃ e, (w.createAtValue label v).1 = .error e ∧
        (w.createAtValue label v).2.flow = w.flow) ∨
      ∃ n, (w.createAtValue label v).1 = .ok n ∧
        w.flow.addNode n = .ok (w.createAtValue label v).2.flow := by
  cases hp : Position.ofJson v with
  | error e => exact Or.inl ⟨.position e, by simp [createAtValue, hp], by simp [createAtValue, hp]⟩
  | ok p =>
    rcases createAt_cases (w.labelOr label) p w with ⟨e, he, h⟩ | ⟨n, hn, _, h⟩
    · exact Or.inl ⟨.flow e, by simp [createAtValue, hp, he, Except.mapError],
        by simpa [createAtValue, hp] using h⟩
    · exact Or.inr ⟨n, by simp [createAtValue, hp, hn, Except.mapError],
        by simpa [createAtValue, hp] using h⟩

theorem createFrom_of_ne_null {label : Json} (h : v ≠ .null) : w.createFrom label v =
    w.createAtValue (if label.isFalsy then [] else label.display) v := by
  cases v with
  | null => exact absurd rfl h
  | bool | num | str | arr | obj => rfl

theorem createFrom_cases (label v : Json) (w : World) :
    (∃ e, (w.createFrom label v).1 = .error e ∧ (w.createFrom label v).2.flow = w.flow) ∨
      ∃ n, (w.createFrom label v).1 = .ok n ∧
        w.flow.addNode n = .ok (w.createFrom label v).2.flow := by
  by_cases hnull : v = .null
  · subst hnull
    rcases createAt_cases (w.labelOr (if label.isFalsy then [] else label.display))
      w.supply.randomPosition.1 { w with supply := w.supply.randomPosition.2 } with
      ⟨e, he, h⟩ | ⟨n, hn, _, h⟩
    · exact Or.inl ⟨.flow e, by simp [createFrom, create, he, Except.mapError], h⟩
    · exact Or.inr ⟨n, by simp [createFrom, create, hn, Except.mapError], h⟩
  · rw [createFrom_of_ne_null hnull]
    exact createAtValue_cases _ _ _

theorem flow_connect : (w.connect source target).2.flow = w.flow ∨
    ∃ e, w.flow.addEdge e = .ok (w.connect source target).2.flow := by
  rcases connect_cases source target w with h | ⟨_, e, _, _, _, h⟩
  · exact Or.inl h
  · exact Or.inr ⟨e, h⟩

theorem valid_createFrom {label : Json} (hv : w.flow.Valid) :
    (w.createFrom label v).2.flow.Valid := by
  rcases createFrom_cases label v w with ⟨_, _, h⟩ | ⟨n, _, h⟩
  · rw [h]
    exact hv
  · exact Flow.valid_addNode hv h

theorem valid_connect (hv : w.flow.Valid) : (w.connect source target).2.flow.Valid := by
  have hc : (w.connect source target).2.flow = w.flow ∨ _ := flow_connect
  rcases hc with h | ⟨e, h⟩
  · rw [h]
    exact hv
  · exact Flow.valid_addEdge hv h

end FlowTalk.World
