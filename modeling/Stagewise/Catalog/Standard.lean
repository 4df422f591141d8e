import Stagewise.Catalog.Basic

/-! The catalog that is used when no other is given. -/

namespace Stagewise

namespace Catalog

def standardWidgets : List WidgetDescriptor :=
  [⟨"idea_cards", "Free-form cards for capturing many ideas quickly",
      "\x7b maxCards?: number, prompt?: string \x7d"⟩,
    ⟨"mind_map", "Radial map that branches one concern into related themes",
      "\x7b rootLabel: string, maxDepth?: number \x7d"⟩,
    ⟨"perspective_shift", "Prompts the user to restate the concern from other viewpoints",
      "\x7b perspectives: string[] \x7d"⟩,
    ⟨"free_writing", "Timed free-writing area for unfiltered thoughts",
      "\x7b minutes?: number, placeholder?: string \x7d"⟩,
    ⟨"affinity_board", "Drag ideas into named clusters",
      "\x7b clusters: string[], allowNewClusters?: boolean \x7d"⟩,
    ⟨"priority_matrix", "Two-axis matrix for placing items by impact and effort",
      "\x7b xAxis: string, yAxis: string \x7d"⟩,
    ⟨"category_tree", "Nested outline for grouping items hierarchically",
      "\x7b levels?: number \x7d"⟩,
    ⟨"pros_cons", "Side-by-side pro and con lists for one option", "\x7b option: string \x7d"⟩,
    ⟨"ranking_list", "Ordered list the user reorders by preference",
      "\x7b items: string[], topN?: number \x7d"⟩,
    ⟨"decision_matrix", "Weighted criteria scoring across options",
      "\x7b options: string[], criteria: \x7b name: string, weight: number \x7d[] \x7d"⟩,
    ⟨"structured_summary", "Sectioned recap of what the session produced",
      "\x7b sections: string[] \x7d"⟩]

def standardStage : Stage → List String
  | .diverge => ["idea_cards", "mind_map", "perspective_shift", "free_writing"]
  | .organize => ["affinity_board", "priority_matrix", "category_tree"]
  | .converge => ["pros_cons", "ranking_list", "decision_matrix"]
  | .summary => ["structured_summary"]

/-- The widgets that can be displayed. -/
def standardImplemented : List String :=
  ["idea_cards", "mind_map", "free_writing", "affinity_board", "priority_matrix", "pros_cons",
    "ranking_list", "structured_summary"]

def standard : Catalog :=
  let described := standardWidgets.foldl addWidget empty
  let staged := Stage.all.foldl (fun c stage => c.setStage stage (standardStage stage)) described
  staged.addImplemented standardImplemented

end Catalog

end Stagewise
