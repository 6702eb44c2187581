import FlowTalk.Proofs.Except
import FlowTalk.Proofs.Flow.Valid
import FlowTalk.Saved.Load

/-! A loaded flow is made by the same changes as any other. -/
namespace FlowTalk.Saved

variable {f g : Flow} {item v : Json} {name : Text}

theorem addNode_eq_ok :
    addNode f item = .ok g ↔ ∃ n, node item = .ok n ∧ f.addNode n = .ok g := by
  rw [addNode, bind_eq_ok]
  exact exists_congr fun n => and_congr_right fun _ => mapError_eq_ok

theorem text_str (t : Text) : text (.str t) = .ok t := by
  rw [text, Json.shown_str]

theorem addEdge_eq_ok :
    addEdge f item = .ok g ↔ ∃ source target id s t i, field "source" item = .ok source ∧
      field "target" item = .ok target ∧ field "id" item = .ok id ∧ text source = .ok s ∧
      text target = .ok t ∧ text id = .ok i ∧ f.addEdge ⟨i, s, t⟩ = .ok g := by
  constructor
  · intro h
    obtain ⟨source, hs, h⟩ := bind_eq_ok.mp h
    obtain ⟨s, hst, h⟩ := bind_eq_ok.mp h
    obtain ⟨target, ht, h⟩ := bind_eq_ok.mp h
    obtain ⟨t, htt, h⟩ := bind_eq_ok.mp h
    split at h
    · obtain ⟨id, hid, h⟩ := bind_eq_ok.mp h
      obtain ⟨i, hit, h⟩ := bind_eq_ok.mp h
      exact ⟨source, target, id, s, t, i, hs, ht, hid, hst, htt, hit, mapError_eq_ok.mp h⟩
    · obtain ⟨_, _, h⟩ := bind_eq_ok.mp h
      obtain ⟨_, _, h⟩ := bind_eq_ok.mp h
      cases h
  · rintro ⟨source, target, id, s, t, i, hs, ht, hid, hst, htt, hit, h⟩
    obtain ⟨hsn, htn, _⟩ := Flow.addEdge_eq_ok h
    simp only at hsn htn
    have hadd : changed (f.addEdge ⟨i, s, t⟩) = .ok g := mapError_eq_ok.2 h
    simp [addEdge, hs, ht, hid, hst, htt, hit, hsn, htn, hadd, bind, Except.bind]

theorem load_eq_ok (h : load name v = .ok f) : ∃ members nodes edges f',
    v = .obj members ∧ Json.field? "nodes" members = some (.arr nodes) ∧
      Json.field? "edges" members = some (.arr edges) ∧
      nodes.foldlM addNode (.empty name) = .ok f' ∧ edges.foldlM addEdge f' = .ok f := by
  cases v with
  | null | bool | num | str | arr => simp [load] at h
  | obj members =>
    simp only [load] at h
    split at h
    · next nodes edges hn he =>
      obtain ⟨f', hf', h⟩ := bind_eq_ok.mp h
      exact ⟨members, nodes, edges, f', rfl, hn, he, hf', h⟩
    · cases h

theorem valid_load (h : load name v = .ok f) : f.Valid := by
  obtain ⟨_, nodes, edges, f', -, -, -, hn, he⟩ := load_eq_ok h
  have hf' : f'.Valid := foldlM_keeps (P := Flow.Valid) (fun hv hs => by
    obtain ⟨n, _, hs⟩ := addNode_eq_ok.mp hs
    exact Flow.valid_addNode hv hs) (Flow.valid_empty name) hn
  refine foldlM_keeps (P := Flow.Valid) (fun hv hs => ?_) hf' he
  obtain ⟨_, _, _, s, t, i, _, _, _, _, _, _, hs⟩ := addEdge_eq_ok.mp hs
  exact Flow.valid_addEdge hv hs

end FlowTalk.Saved
