import Recommend.Proofs.Json.Refusal
import Recommend.Proofs.Message.Codec
import Recommend.Proofs.Number.ReadBack

/-!
Which requests survive being written and read.

A binary32 number reads back iff it is finite, and what is written for an infinity is
refused.  Both pass from numbers to the features, maps and contexts that hold them: a
request reads back if all its numbers are finite (`RecRequest.recovers_of_isFinite`),
and otherwise its written form is no request at all (`RecRequest.refuses`).
-/

namespace Recommend

open Json

/-! ### Numbers -/

namespace Single

/-- Whether a number is finite. -/
def isFinite : Single → Bool
  | .finite _ _ => true
  | .infinite _ => false

/-- A finite number reads back from its document. -/
theorem readsBack_finite (negative : Bool) (m : Magnitude) :
    (finite negative m).ReadsBack := by
  have hback := readBack?_finite negative m
  rw [readBack?, Option.map_eq_some_iff] at hback
  obtain ⟨v, hv, hround⟩ := hback
  obtain ⟨n, hn, hvalue⟩ := Option.bind_eq_some_iff.1 hv
  -- the document of a number is its numeral and nothing else
  have hwrite : Codec.single.write (finite negative m) = .number n := by
    simp [Codec.single, hn]
  have hread : Codec.readNumber (n.text ++ []) = denoted n [] :=
    Codec.readNumber_text n trivial
  rw [List.append_nil, denoted, hvalue] at hread
  have hsingle : Codec.single.read n.text = .ok (finite negative m, []) := by
    show (Codec.readNumber n.text).map _ = _
    rw [hread, ← hround]
    rfl
  rw [ReadsBack, Codec.encode, hwrite, Json.compact, chars, Codec.decode,
    String.toList_ofList, Codec.decodeWhole, hsingle]
  rfl

theorem readsBack_of_isFinite {x : Single} (h : x.isFinite = true) : x.ReadsBack := by
  cases x with
  | finite negative m => exact readsBack_finite negative m
  | infinite negative => cases h

/-- An infinity is refused. -/
theorem refuses {x : Single} (h : x.isFinite = false) : Codec.single.Refuses x := by
  cases x with
  | finite negative m => cases h
  | infinite negative => exact Codec.refuses_infinite negative

/-- Every number reads back or is refused. -/
theorem recovers_or_refuses (x : Single) :
    Codec.single.Recovers x ∨ Codec.single.Refuses x := by
  cases hx : x.isFinite with
  | true => exact .inl (Codec.recovers_single (readsBack_of_isFinite hx))
  | false => exact .inr (refuses hx)

end Single

/-- A value whose numbers decide between reading back and being refused does one or the
other. -/
theorem Json.Codec.recovers_or_refuses {α : Type} {c : Codec α} {a : α}
    {singles : List Single} (hrecovers : (∀ x ∈ singles, x.ReadsBack) → c.Recovers a)
    (hrefuses : (∃ x ∈ singles, x.isFinite = false) → c.Refuses a) :
    c.Recovers a ∨ c.Refuses a := by
  by_cases h : ∃ x ∈ singles, x.isFinite = false
  · exact .inr (hrefuses h)
  · refine .inl (hrecovers fun x hx => Single.readsBack_of_isFinite ?_)
    rw [← Bool.not_eq_false]
    exact fun hinfinite => h ⟨x, hx, hinfinite⟩

/-! ### Features -/

/-- A weighted id with an infinite weight is refused. -/
theorem IdWeight.refuses {w : IdWeight} (h : w.weight.isFinite = false) :
    IdWeight.codec.Refuses w := by
  have hweight := Single.refuses h
  exact Codec.refuses_record (by decide)
    ⟨.inl (WeightedId.recovers w.id), .inr hweight, trivial⟩ (.inr (.inl hweight))

theorem IdWeight.recovers_or_refuses (w : IdWeight) :
    IdWeight.codec.Recovers w ∨ IdWeight.codec.Refuses w := by
  cases hw : w.weight.isFinite with
  | true => exact .inl (IdWeight.recovers (Single.readsBack_of_isFinite hw))
  | false => exact .inr (IdWeight.refuses hw)

/-- A list with an infinity is refused. -/
theorem FeatureList.refuses {l : FeatureList} (h : ∃ x ∈ l.singles, x.isFinite = false) :
    FeatureList.codec.Refuses l := by
  obtain ⟨x, hx, hinfinite⟩ := h
  cases l with
  -- texts and whole numbers hold no binary32 number
  | bytes values => cases hx
  | ints values => cases hx
  | floats values =>
    exact Codec.refuses_payload rfl rfl
      (Codec.refuses_list (fun y _ => Single.recovers_or_refuses y)
        ⟨x, hx, Single.refuses hinfinite⟩)
  | weighted values =>
    obtain ⟨w, hw, rfl⟩ := List.mem_map.1 hx
    exact Codec.refuses_payload rfl rfl
      (Codec.refuses_list (fun y _ => IdWeight.recovers_or_refuses y)
        ⟨w, hw, IdWeight.refuses hinfinite⟩)

/-- A feature map with an infinity is refused. -/
theorem FeatureMap.refuses {m : FeatureMap}
    (h : ∃ x ∈ FeatureMap.singles m, x.isFinite = false) :
    FeatureMap.codec.Refuses m := by
  obtain ⟨x, hx, hinfinite⟩ := h
  obtain ⟨e, he, hmem⟩ := List.mem_flatMap.1 hx
  exact Codec.refuses_map Codec.Key.recovers_int32
    (fun _ _ => Codec.recovers_or_refuses FeatureList.recovers FeatureList.refuses)
    ⟨e, he, FeatureList.refuses ⟨x, hmem, hinfinite⟩⟩

/-- A context with an infinity is refused. -/
theorem Context.refuses {c : Context} (h : ∃ x ∈ Context.singles c, x.isFinite = false) :
    Context.codec.Refuses c := by
  obtain ⟨x, hx, hinfinite⟩ := h
  obtain ⟨e, he, hmem⟩ := List.mem_flatMap.1 hx
  exact Codec.refuses_map Codec.Key.recovers_int32
    (fun _ _ => Codec.recovers_or_refuses FeatureMap.recovers FeatureMap.refuses)
    ⟨e, he, FeatureMap.refuses ⟨x, hmem, hinfinite⟩⟩

/-! ### Requests -/

namespace RecRequest

/-- No number in the context is an infinity. -/
def IsFinite (q : RecRequest) : Prop := ∀ x ∈ Context.singles q.context, x.isFinite = true

instance (q : RecRequest) : Decidable q.IsFinite :=
  inferInstanceAs (Decidable (∀ x ∈ Context.singles q.context, x.isFinite = true))

/-- A request without infinities reads back. -/
theorem recovers_of_isFinite {q : RecRequest} (h : q.IsFinite) :
    RecRequest.codec.Recovers q :=
  RecRequest.recovers fun x hx => Single.readsBack_of_isFinite (h x hx)

/-- A request with an infinity is refused. -/
theorem refuses {q : RecRequest} (h : ¬q.IsFinite) : RecRequest.codec.Refuses q := by
  have hcontext : Context.codec.Refuses q.context := by
    apply Context.refuses
    rw [IsFinite] at h
    push Not at h
    simpa only [Bool.not_eq_true] using h
  exact Codec.refuses_record (by decide)
    ⟨.inl (Codec.recovers_text q.requestId), .inr hcontext, trivial⟩ (.inr (.inl hcontext))

end RecRequest

end Recommend
