import FeatureToggles.Catalog.Document
import FeatureToggles.Proofs.Json.RoundTrip
import FeatureToggles.Proofs.Service.Answers
import FeatureToggles.Proofs.Service.Writing

/-!
# The list of features is a catalog document

The service shows the features of its catalog as JSON, and the records of a catalog document are read in
their own way: under several keys, with lenient flags and lists that may be null.  Still the list as it
is shown is a document of the same catalog, so that another service can be run on what one shows.

Main statement: `listed_reads_back`.
-/

namespace FeatureToggles

/-! ## Features are read from what they are shown as -/

namespace Record

/-- A check that reads each item from what it is shown as reads a list of them. -/
lemma all_map {α : Type} {check : Json → Checked α} {shown : α → Json}
    (h : ∀ x, check (shown x) = .ok x) (start : Nat) (xs : List α) :
    Checked.all check start (xs.map shown) = .ok xs := by
  induction xs generalizing start with
  | nil => rfl
  | cons x xs ih =>
      rw [List.map_cons, Checked.all, h, ih]
      rfl

lemma rule_toJson (r : Rule) : rule r.toJson = .ok r := rfl

lemma feature_toJson (f : Feature) : feature f.toJson = .ok f := by
  have hstring : ∀ s : String, string (.str s) = .ok s := fun _ => rfl
  have hdepends : listOf string (.arr (f.dependsOn.map .str)) = .ok f.dependsOn :=
    all_map hstring 0 f.dependsOn
  have hrules : listOf rule (.arr (f.rules.map Rule.toJson)) = .ok f.rules :=
    all_map rule_toJson 0 f.rules
  -- every field stands under one of its keys, and under no other
  have hfields : feature f.toJson =
      Checked.both (fun name rest => ⟨name, rest.1.1, rest.1.2, rest.2.1, rest.2.2⟩) (.ok f.name)
        (Checked.both Prod.mk (.ok (f.enabled, f.defaultEnabled))
          (Checked.both Prod.mk
            ((listOf string (.arr (f.dependsOn.map .str))).under (.key "depends_on"))
            ((listOf rule (.arr (f.rules.map Rule.toJson))).under (.key "rules")))) := rfl
  rw [hfields, hdepends, hrules]
  rfl

lemma features_listing (catalog : Catalog) : features catalog.listing = .ok catalog :=
  all_map feature_toJson 0 catalog

end Record

/-! ## What is shown can be written and read -/

namespace Json

lemma plain_texts (ss : List String) : Plain (.arr (ss.map .str)) := by
  refine .arr fun j hj => ?_
  obtain ⟨s, -, rfl⟩ := List.mem_map.mp hj
  exact .str s

lemma plain_rule (r : Rule) : Plain r.toJson := by
  refine .obj (by simp) fun field hfield => ?_
  simp only [List.mem_cons, List.not_mem_nil, or_false] at hfield
  rcases hfield with rfl | rfl | rfl
  · exact .str _
  · exact .bool _
  · exact .bool _

lemma plain_feature (f : Feature) : Plain f.toJson := by
  refine .obj (by simp) fun field hfield => ?_
  simp only [List.mem_cons, List.not_mem_nil, or_false] at hfield
  rcases hfield with rfl | rfl | rfl | rfl | rfl
  · exact .str _
  · exact .bool _
  · exact .bool _
  · exact plain_texts _
  · refine .arr fun j hj => ?_
    obtain ⟨r, -, rfl⟩ := List.mem_map.mp hj
    exact plain_rule r

lemma plain_listing (catalog : Catalog) : Plain (.arr catalog.listing) := by
  refine .arr fun j hj => ?_
  obtain ⟨f, -, rfl⟩ := List.mem_map.mp hj
  exact plain_feature f

end Json

/-- The list of its features is a document of a catalog. -/
lemma Catalog.ofText_listing (source : String) (catalog : Catalog) :
    ofText source (Json.arr catalog.listing).write = .ok catalog := by
  rw [ofText, Json.ofChars_write (Json.plain_listing catalog)]
  exact ofJson_eq_ok_iff.mpr ⟨_, rfl, Record.features_listing catalog⟩

/-! ## The resource that lists the features -/

namespace Service

/-- The path of the resource that lists the features. -/
def featuresPath : List Char := "/features".toList

lemma lookup_features (source : String) (framework : Framework) :
    Route.lookup (toggles source framework).routes "GET" featuresPath = .found .features "" := by
  change Route.lookup Route.all _ _ = _
  decide

variable {source : String} {framework : Framework} {e : Exchange} {catalog : Catalog}

/-- A list of features is written exactly if all texts of the features are whole. -/
lemma isWritable_listReply_iff : (listReply catalog).isWritable = true ↔
    ∀ f ∈ catalog, ∀ s ∈ f.texts, Text.IsWhole s := by
  have hkeys : ∀ key ∈ ["features", "total"], Text.IsWhole key := by decide
  simp only [List.forall_mem_cons, List.not_mem_nil, false_imp_iff, implies_true, and_true] at hkeys
  rw [listReply, Reply.isWritable_json_iff]
  simp [hkeys, Catalog.listing, Feature.isSendable_toJson_iff]

/-- Where a catalog is fetched, its features are listed. -/
lemma reply_handle_features (hmethod : e.request.method = "GET")
    (hpath : e.request.path = featuresPath) (hcatalog : e.fetched.outcome = .ok catalog)
    (hwhole : ∀ f ∈ catalog, ∀ s ∈ f.texts, Text.IsWhole s) (m : Metrics) :
    ((toggles source framework).handle e m).1.reply = listReply catalog := by
  have hlookup : Route.lookup (toggles source framework).routes e.request.method e.request.path =
      .found .features "" := by rw [hmethod, hpath, lookup_features]
  rw [reply_handle_of_found hlookup]
  simp only [answer, hcatalog]
  exact sent_ok_of_isWritable (isWritable_listReply_iff.mpr hwhole)

/-- The text of an array of features and of their number. -/
lemma write_listed (items : List Json) (total : Int) :
    Json.write (.obj [("features", .arr items), ("total", .int total)]) =
      "\x7b\"features\":".toList ++ Json.write (.arr items) ++
        (",\"total\":".toList ++ (toString total).toList ++ ['\x7d']) := by
  have hfeatures : Json.writeString "features" = "\"features\"".toList := by decide
  have htotal : Json.writeString "total" = "\"total\"".toList := by decide
  simp [Json.write, Json.writeFields, hfeatures, htotal]

/-- Asked for its features, the service answers with an array of them and their number, if their texts hold no
halves of pairs.  The text of the array is a document of the very catalog that the service fetched. -/
theorem listed_reads_back (source : String) (framework : Framework) (e : Exchange) (m : Metrics)
    (catalog : Catalog) (hmethod : e.request.method = "GET") (hpath : e.request.path = featuresPath)
    (hcatalog : e.fetched.outcome = .ok catalog)
    (hwhole : ∀ f ∈ catalog, ∀ s ∈ f.texts, Text.IsWhole s) :
    ∃ body items, ((toggles source framework).handle e m).1.reply = Reply.json 200 body ∧
      body.field? "features" = some (.arr items) ∧
      body.field? "total" = some (.int catalog.length) ∧
      body.write = "\x7b\"features\":".toList ++ (Json.arr items).write ++
        (",\"total\":".toList ++ (toString (catalog.length : Int)).toList ++ ['\x7d']) ∧
      ∀ source', Catalog.ofText source' (Json.arr items).write = .ok catalog :=
  ⟨_, catalog.listing, reply_handle_features hmethod hpath hcatalog hwhole m, rfl, rfl,
    write_listed _ _, fun source' => Catalog.ofText_listing source' catalog⟩

/-- A request for the features of a catalog with a name that has to be escaped. -/
def listExchange : Exchange where
  request := ⟨"GET", featuresPath, [], []⟩
  fetched := ⟨.ok [⟨"say \"hi\"\n", true, false, ["\\"], [⟨"age > 18", true, false⟩]⟩], []⟩
  evaluationTime := .zero false
  requestTime := .zero false
  freshIdentifier := "1"

theorem listed_reads_back_escaped :
    ∃ body items, ((toggles "" .silent).handle listExchange (.fresh togglesName)).1.reply =
        Reply.json 200 body ∧
      body.field? "features" = some (.arr items) ∧ body.field? "total" = some (.int 1) ∧
      Catalog.ofText "copy.json" (Json.arr items).write =
        .ok [⟨"say \"hi\"\n", true, false, ["\\"], [⟨"age > 18", true, false⟩]⟩] := by
  obtain ⟨body, items, hreply, hitems, htotal, -, hcatalog⟩ :=
    listed_reads_back "" .silent listExchange (.fresh togglesName) _ rfl rfl rfl (by decide)
  exact ⟨body, items, hreply, hitems, htotal, hcatalog "copy.json"⟩

end Service

end FeatureToggles
