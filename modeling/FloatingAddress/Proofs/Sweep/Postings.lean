import FloatingAddress.Proofs.Sweep.InMemory

/-!
# The last writer wins

All floating addresses of a guest cluster are published in one config map there, and in one entry of
it. If there is no such map yet, the first address makes it. From then on an address is written only
if its record forces that, and then it takes the place of the earlier one. So what remains in the
end is what the last of these writes left; and posting the same addresses all over again ends with
the same write.

A config map may claim to lie elsewhere than it was found. What is written then goes to the other
place, as long as there is a config map, and the map that was found stays as it is.
-/

namespace FloatingAddress

open Sweep

namespace Manifest.ConfigMap

/-- The later one of two values of an entry counts. -/
@[simp] theorem withEntry_withEntry (m : ConfigMap) (key value other : String) :
    (m.withEntry key value).withEntry key other = m.withEntry key other := by
  refine congrArg (fun texts => { m with data := some texts }) (Std.ExtTreeMap.ext_getElem? ?_)
  intro k
  simp only [withEntry, Option.getD_some, Std.ExtTreeMap.getElem?_insert]
  split <;> rfl

end Manifest.ConfigMap

@[simp] theorem Sweep.withEntry_addressMap (ns : String) (address : Ipv4) :
    (addressMap ns address).withEntry addressKey (addressText address) = addressMap ns address := by
  refine congrArg (fun texts => ({ addressMap ns address with data := some texts } :
    Manifest.ConfigMap)) (Std.ExtTreeMap.ext_getElem? ?_)
  intro k
  simp only [addressMap, Option.getD_some, Std.ExtTreeMap.ofList_singleton,
    Std.ExtTreeMap.getElem?_insert]
  split <;> rfl

namespace InMemory

/-- The config maps of all guest clusters, by the places where they are found. -/
abbrev ConfigMaps := MapPlace → Option Manifest.ConfigMap

/-- An address that is to be published in a guest cluster. -/
structure Posting where
  cluster : String
  /-- Whether it takes the place of an earlier one. -/
  forced : Bool
  address : Ipv4

namespace Posting

/-- Where the address is looked for. -/
def place (ns : String) (p : Posting) : MapPlace :=
  { cluster := p.cluster, ns, name := addressConfigMap }

/-- A config map with the address in it. -/
def into (p : Posting) (m : Manifest.ConfigMap) : Manifest.ConfigMap :=
  m.withEntry addressKey (addressText p.address)

end Posting

namespace ConfigMaps

variable {ns cluster : String} {maps other : ConfigMaps} {p q : Posting} {ps : List Posting}
  {place : MapPlace} {m : Manifest.ConfigMap}

/-- The config maps after an address was published. -/
def post (ns : String) (maps : ConfigMaps) (p : Posting) : ConfigMaps :=
  match maps (p.place ns) with
  | none => Function.update maps (p.place ns) (some (addressMap ns p.address))
  | some m =>
    let target := Guests.placeOf p.cluster m
    if p.forced ∧ (maps target).isSome then Function.update maps target (some (p.into m)) else maps

/-- The config maps after some addresses were published one after the other. -/
def postAll (ns : String) (maps : ConfigMaps) (ps : List Posting) : ConfigMaps :=
  ps.foldl (post ns) maps

theorem post_of_none (missing : maps (p.place ns) = none) : post ns maps p =
    Function.update maps (p.place ns) (some (addressMap ns p.address)) := by
  rw [post, missing]

theorem post_of_some (found : maps (p.place ns) = some m) : post ns maps p =
    if p.forced ∧ (maps (Guests.placeOf p.cluster m)).isSome then
      Function.update maps (Guests.placeOf p.cluster m) (some (p.into m))
    else maps := by
  rw [post, found]

/-- An address that is not forced leaves a config map as it is. -/
theorem post_unforced (unforced : p.forced = false) (there : (maps (p.place ns)).isSome) :
    post ns maps p = maps := by
  obtain ⟨m, found⟩ := Option.isSome_iff_exists.mp there
  rw [post_of_some found, if_neg (by simp [unforced])]

/-- No config map goes away. -/
theorem isSome_post (there : (maps place).isSome) : (post ns maps p place).isSome := by
  have updated : ∀ at' m, (Function.update maps at' (some m) place).isSome := by
    intro at' m
    rw [Function.update_apply]
    split
    · rfl
    · exact there
  cases found : maps (p.place ns) with
  | none =>
    rw [post_of_none found]
    exact updated _ _
  | some m =>
    rw [post_of_some found]
    split
    · exact updated _ _
    · exact there

/-- Wherever the map is that is written, the next forced address is written there as well. -/
theorem post_absorbs (forced : p.forced = true) (near : q.cluster = p.cluster)
    (there : (maps (p.place ns)).isSome) : post ns (post ns maps q) p = post ns maps p := by
  obtain ⟨m, found⟩ := Option.isSome_iff_exists.mp there
  have same : q.place ns = p.place ns := by rw [Posting.place, near, Posting.place]
  rw [post_of_some (m := m) (p := q) (by rw [same, found]), near]
  split
  next writes =>
    obtain ⟨-, target⟩ := writes
    rw [post_of_some found, if_pos ⟨forced, target⟩]
    by_cases here : p.place ns = Guests.placeOf p.cluster m
    · have found' : Function.update maps (Guests.placeOf p.cluster m) (some (q.into m))
          (p.place ns) = some (q.into m) := by rw [here, Function.update_self]
      rw [post_of_some found', show Guests.placeOf p.cluster (q.into m) = Guests.placeOf p.cluster m
        from rfl, if_pos ⟨forced, by rw [Function.update_self]; rfl⟩, Function.update_idem]
      rw [Posting.into, Posting.into, Manifest.ConfigMap.withEntry_withEntry, Posting.into]
    · have found' : Function.update maps (Guests.placeOf p.cluster m) (some (q.into m))
          (p.place ns) = some m := by rw [Function.update_of_ne here, found]
      rw [post_of_some found', if_pos ⟨forced, by rw [Function.update_self]; rfl⟩,
        Function.update_idem]
  · rfl

/-- The address that made the config map has nothing to add. -/
theorem post_made (missing : maps (p.place ns) = none) :
    post ns (post ns maps p) p = post ns maps p := by
  rw [post_of_none missing]
  have found : Function.update maps (p.place ns) (some (addressMap ns p.address)) (p.place ns) =
      some (addressMap ns p.address) := Function.update_self ..
  rw [post_of_some found]
  split
  · rw [show Guests.placeOf p.cluster (addressMap ns p.address) = p.place ns from rfl,
      Function.update_idem, Posting.into, withEntry_addressMap]
  · rfl

/-- In a guest cluster with a config map, what counts is the last forced address, if there is
one. -/
theorem exists_last (ns : String) (near : ∀ p ∈ ps, p.cluster = cluster) :
    ∃ last : Option Posting, (∀ q ∈ last, q.forced = true ∧ q.cluster = cluster) ∧
      ∀ maps : ConfigMaps, (maps { cluster, ns, name := addressConfigMap }).isSome →
        postAll ns maps ps = last.elim maps (post ns maps) := by
  induction ps with
  | nil => exact ⟨none, by simp, fun maps there => rfl⟩
  | cons p ps ih =>
    obtain ⟨here, near⟩ := List.forall_mem_cons.mp near
    subst here
    obtain ⟨last, proper, ends⟩ := ih near
    have further : ∀ maps : ConfigMaps, (maps (p.place ns)).isSome →
        postAll ns maps (p :: ps) = last.elim (post ns maps p) (post ns (post ns maps p)) :=
      fun maps there => ends _ (isSome_post there)
    cases last with
    | some q =>
      obtain ⟨forced, same⟩ := proper q rfl
      refine ⟨some q, proper, fun maps there => (further maps there).trans ?_⟩
      exact post_absorbs forced same.symm (by rwa [Posting.place, same])
    | none =>
      cases forced : p.forced with
      | true => exact ⟨some p, by simp [forced], further⟩
      | false =>
        exact ⟨none, by simp, fun maps there =>
          (further maps there).trans (post_unforced forced there)⟩

/-- In one guest cluster, posting everything again changes nothing. -/
theorem postAll_postAll_of_cluster (near : ∀ p ∈ ps, p.cluster = cluster) :
    postAll ns (postAll ns maps ps) ps = postAll ns maps ps := by
  obtain ⟨last, proper, ends⟩ := exists_last ns near
  -- Once there is a config map, the last forced address decides, now and again.
  have again : ∀ maps : ConfigMaps, (maps { cluster, ns, name := addressConfigMap }).isSome →
      postAll ns (postAll ns maps ps) ps = postAll ns maps ps := by
    intro maps there
    rw [ends maps there]
    cases last with
    | none => exact ends maps there
    | some q =>
      obtain ⟨forced, rfl⟩ := proper q rfl
      exact (ends _ (isSome_post there)).trans (post_absorbs forced rfl there)
  cases found : maps { cluster, ns, name := addressConfigMap } with
  | some m => exact again maps (by rw [found]; rfl)
  | none =>
    cases ps with
    | nil => rfl
    | cons p ps =>
      obtain rfl := near p List.mem_cons_self
      have first : postAll ns maps (p :: ps) = postAll ns (post ns maps p) (p :: ps) :=
        congrArg (postAll ns · ps) (post_made found).symm
      rw [first]
      refine again _ ?_
      rw [post_of_none found, Posting.place, Function.update_self]
      rfl

/-- What is posted in one guest cluster depends on nothing in the others. -/
theorem post_congr (agree : ∀ place, place.cluster = cluster → maps place = other place)
    (here : p.cluster = cluster) : ∀ place, place.cluster = cluster →
      post ns maps p place = post ns other p place := by
  subst here
  intro place near
  have updated : ∀ at' m, Function.update maps at' (some m) place =
      Function.update other at' (some m) place := by
    intro at' m
    rw [Function.update_apply, Function.update_apply, agree place near]
  have look : maps (p.place ns) = other (p.place ns) := agree _ rfl
  cases found : other (p.place ns) with
  | none =>
    rw [post_of_none found, post_of_none (look.trans found)]
    exact updated _ _
  | some m =>
    rw [post_of_some found, post_of_some (look.trans found), agree (Guests.placeOf p.cluster m) rfl]
    split
    · exact updated _ _
    · exact agree place near

theorem post_of_ne (far : place.cluster ≠ p.cluster) : post ns maps p place = maps place := by
  cases found : maps (p.place ns) with
  | none =>
    rw [post_of_none found, Function.update_of_ne]
    exact fun same => far (congrArg MapPlace.cluster same)
  | some m =>
    rw [post_of_some found]
    split
    · rw [Function.update_of_ne]
      exact fun same => far (congrArg MapPlace.cluster same)
    · rfl

/-- Each guest cluster is left as if its own addresses were the only ones. -/
theorem postAll_eq_filter (agree : ∀ place, place.cluster = cluster → maps place = other place) :
    ∀ place, place.cluster = cluster → postAll ns maps ps place =
      postAll ns other (ps.filter (·.cluster = cluster)) place := by
  induction ps generalizing maps other with
  | nil => exact agree
  | cons p ps ih =>
    by_cases here : p.cluster = cluster
    · rw [List.filter_cons_of_pos (by simpa using here)]
      exact ih (post_congr agree here)
    · rw [List.filter_cons_of_neg (by simpa using here)]
      refine ih fun place near => ?_
      rw [post_of_ne (fun same => here (same ▸ near)), agree place near]

/-- Posting everything again changes nothing. -/
theorem postAll_postAll : postAll ns (postAll ns maps ps) ps = postAll ns maps ps := by
  funext place
  let own := ps.filter (·.cluster = place.cluster)
  have alone : ∀ spot, spot.cluster = place.cluster →
      postAll ns maps ps spot = postAll ns maps own spot := postAll_eq_filter fun _ _ => rfl
  have near : ∀ p ∈ own, p.cluster = place.cluster := by simp [own]
  calc postAll ns (postAll ns maps ps) ps place
      = postAll ns (postAll ns maps own) own place := postAll_eq_filter alone place rfl
    _ = postAll ns maps own place := by rw [postAll_postAll_of_cluster near]
    _ = postAll ns maps ps place := (alone place rfl).symm

end ConfigMaps

end InMemory

end FloatingAddress
