import LineScript.Proofs.Json.Restored

/-!
# Values and their JSON text

Encoding and decoding undo each other: the JSON data of a value stands for the value
(`ofJson_toJson`), and the text of a value is read as the value, in the compact layout as in the pretty
one (`read_of_spelled`).
-/

namespace LineScript.Value

mutual

theorem Each.mono {p q : Value → Prop} (h : ∀ v, p v → q v) : ∀ v : Value, v.Each p → v.Each q
  | null, hv | boolean _, hv | integer _, hv | float _, hv | string _, hv => h _ hv
  | object fields, hv => ⟨h _ hv.1, EachField.mono h fields hv.2⟩
termination_by structural v => v

theorem EachField.mono {p q : Value → Prop} (h : ∀ v, p v → q v) :
    ∀ fields : List (String × Value), EachField p fields → EachField q fields
  | [], _ => trivial
  | (_, v) :: fields, hfields => ⟨Each.mono h v hfields.1, EachField.mono h fields hfields.2⟩
termination_by structural fields => fields

end

mutual

theorem ofJson_toJson : ∀ v : Value, v.Each Finite → ofJson v.toJson = v
  | null, _ | boolean _, _ | string _, _ => rfl
  | integer n, _ => by rw [toJson, ofJson, Integer.ofInt?_toInt]
  | float x, hx => by
    have hx : x.isFinite = true := hx
    rw [toJson, if_pos hx, ofJson]
  | object fields, hv => by rw [toJson, ofJson, ofMembers_toMembers fields hv.2]
termination_by structural v => v

theorem ofMembers_toMembers : ∀ fields : List (String × Value), EachField Finite fields →
    ofMembers (toMembers fields) = fields
  | [], _ => rfl
  | (k, v) :: fields, hfields => by
    rw [toMembers, ofMembers, ofJson_toJson v hfields.1, ofMembers_toMembers fields hfields.2]
termination_by structural fields => fields

end

theorem readBack_of_kind {v : Value} (h : v.kind ≠ .float) : v.ReadBack := by
  cases v with
  | float x => exact absurd rfl h
  | _ => trivial

/-- The text of a value in any layout is read as the value, if no more objects nest in it than the
reader has levels, and if the floating-point numbers in it are read back. -/
theorem read_of_spelled {sp : Spacing} {v : Value} (hordered : v.Each InOrder)
    (hback : v.Each ReadBack) (hdepth : v.depth ≤ 127) {s : String}
    (hs : s.toList = v.spelled sp 0 []) : read s = .ok v := by
  have hread : (Json.read s).toOption.map ofJson = some v := by
    rw [Json.read_spelled hordered hs]
    exact (map_reread?_eq_some_iff v Json.maxDepth).mpr ⟨hdepth, hback⟩
  unfold read
  cases hs : Json.read s with
  | error e =>
    rw [hs] at hread
    cases hread
  | ok j =>
    rw [hs] at hread
    exact congrArg Except.ok (Option.some.inj hread)

/-- A value without floating-point numbers, in which objects nest at most 127 deep, is read back from
its compact text, which is the text that an object has in a string, and from its pretty text; and the
JSON data of a value stands for the value if every floating-point number in it is finite. -/
theorem read_written :
    (∀ v : Value, v.Each InOrder → v.Each (fun u => u.kind ≠ .float) → v.depth ≤ 127 →
      read v.toJson.compact = .ok v ∧ read v.toJson.pretty = .ok v ∧
        ∀ fields, v = object fields → read v.text = .ok v) ∧
    ∀ v : Value, v.Each Finite → ofJson v.toJson = v := by
  refine ⟨fun v hordered hfloat hdepth => ?_, ofJson_toJson⟩
  have hback : v.Each ReadBack := Each.mono (fun _ => readBack_of_kind) v hfloat
  have hcompact := read_of_spelled hordered hback hdepth (toList_compact v)
  refine ⟨hcompact, read_of_spelled hordered hback hdepth (toList_pretty v), ?_⟩
  rintro fields rfl
  exact hcompact

/-- An object with an empty key, an empty object, the characters that are escaped, and the integers at
either end. -/
def extremes : Value :=
  object [("", object [("\x00\"\\", string "\n\x1f\x7f\"\\é😀")]), ("greatest", integer Int64.maxValue),
    ("least", integer Int64.minValue), ("none", object [])]

theorem read_extremes :
    extremes.Each InOrder ∧ extremes.Each (fun u => u.kind ≠ .float) ∧ extremes.depth ≤ 127 ∧
      read extremes.text = .ok extremes ∧ read extremes.toJson.pretty = .ok extremes ∧
      (float 0.5).Each Finite ∧ ofJson (float 0.5).toJson = float 0.5 := by
  have hordered : extremes.Each InOrder := by
    simp only [extremes, Each, EachField, InOrder, Entries.Ordered]
    decide +kernel
  have hfloat : extremes.Each (fun u => u.kind ≠ .float) := by
    simp only [extremes, Each, EachField, kind]
    decide
  have hdepth : extremes.depth ≤ 127 := by decide
  have hfinite : (float 0.5).Each Finite := by
    show (0.5 : Float).isFinite = true
    decide +kernel
  obtain ⟨hread, hdata⟩ := read_written
  obtain ⟨-, hpretty, htext⟩ := hread extremes hordered hfloat hdepth
  exact ⟨hordered, hfloat, hdepth, htext _ rfl, hpretty, hfinite, hdata _ hfinite⟩

end LineScript.Value
