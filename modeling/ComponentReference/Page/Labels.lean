/-!
# Headings and labels

The fixed wording of the pages, the same in every format.
-/

namespace ComponentReference.Page

/-- The text that fills a cell without content. -/
def emptyCell : String := "-"

/-- The link from a component's page to the index. -/
def backLinkText : String := "← 返回组件列表"

/-- The parts of a page that have headings. -/
inductive Section where
  | description
  | examples
  | properties
  | members
  | events
  | slots
  | components
deriving DecidableEq, Repr

/-- The heading of a part. -/
def Section.title : Section → String
  | .description => "组件描述"
  | .examples => "组件示例"
  | .properties => "Props"
  | .members => "Expose (暴露的方法和属性)"
  | .events => "Events"
  | .slots => "Slots"
  | .components => "组件列表"

/-- The columns of the tables. -/
inductive Column where
  | name
  | type
  | default
  | description
  | parameters
deriving DecidableEq, Repr

/-- The heading of a column. -/
def Column.title : Column → String
  | .name => "名称"
  | .type => "类型"
  | .default => "默认值"
  | .description => "描述"
  | .parameters => "参数"

/-- The title of the example at place `index`, when it has none of its own. -/
def exampleTitle (index : Int) : String :=
  "示例 " ++ index.repr

end ComponentReference.Page
