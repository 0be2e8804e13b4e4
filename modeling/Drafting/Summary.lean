import Drafting.Decimal.Fixed
import Drafting.Source

/-!
# Summaries

A summary says in a few lines what has been loaded: where it comes from, the
page, the number of shapes, then one line for each shape in the order of the
document, and at last the rows that failed.  All lengths have two places.

The text of a shape is left out when it is empty, and a mark stands behind
shapes that are not visible.
-/

namespace Drafting

def shownLength (v : Float) : String :=
  Decimal.fixed 2 v

namespace Point

def shown (p : Point) : String :=
  "(" ++ shownLength p.x ++ ", " ++ shownLength p.y ++ ")"

end Point

namespace Page

def shownUnits (p : Page) : String :=
  if p.units = "" then "" else " " ++ p.units

def summary (p : Page) : String :=
  "页面 " ++ shownLength p.width ++ " x " ++ shownLength p.height ++ p.shownUnits ++
    ", 网格=" ++ shownLength p.grid ++ ", 捕捉=" ++ shownLength p.snap ++
    ", 比例=1:" ++ Decimal.counted p.scale

end Page

namespace Common

def shownText (c : Common) : String :=
  if c.text = "" then ""
  else ", 文字=\"" ++ c.text ++ "\"(" ++ c.textAlign.code ++ ")"

def summary (c : Common) : String :=
  "Layer=" ++ Decimal.whole c.layer ++ ", 线色=" ++ c.lineColor.name ++
    ", 线宽=" ++ shownLength c.lineThickness ++ ", 填充=" ++ c.fillColor.name ++ c.shownText

end Common

namespace Shape

def shownExtents (width height : Float) : String :=
  "宽=" ++ shownLength width ++ ", 高=" ++ shownLength height

def summary : Shape -> String
  | .rect r =>
      "矩形 " ++ r.common.id ++ ", 位置=" ++ r.location.shown ++ ", " ++
        shownExtents r.width r.height ++ ", " ++ r.common.summary
  | .line l =>
      "线段 " ++ l.common.id ++ ", 起点=" ++ l.start.shown ++ ", 终点=" ++ l.finish.shown ++
        ", 端帽=" ++ l.startCap.code ++ "/" ++ l.endCap.code ++ ", " ++ l.common.summary
  | .ellipse e =>
      "椭圆 " ++ e.common.id ++ ", 中心=" ++ e.center.shown ++ ", " ++
        shownExtents e.width e.height ++ ", " ++ e.common.summary

end Shape

namespace Document

def countSummary (d : Document) : String :=
  "图形总数 " ++ Decimal.counted d.shapeCount ++
    "（矩形 " ++ Decimal.counted d.rects.length ++
    "，线段 " ++ Decimal.counted d.lines.length ++
    "，椭圆 " ++ Decimal.counted d.ellipses.length ++ "）"

end Document

namespace Scene

def hiddenMark : String :=
  " [隐藏]"

def shapeLine (s : Scene) (shape : Shape) : String :=
  "  - " ++ shape.summary ++ (if s.isLayerVisible shape.layer then "" else hiddenMark)

end Scene

namespace Loaded

def originLine (l : Loaded) : String :=
  match l.kind with
  | .rows => "已从图纸描述加载：" ++ l.path
  | .document => "已从 JSON 加载：" ++ l.path

def statusLine (l : Loaded) : String :=
  match l.rowErrors with
  | [] => "解析无错误。"
  | errors => "逐行错误 " ++ Decimal.counted errors.length ++ " 条："

def errorLine (e : RowError) : String :=
  "  - " ++ e.message

def summaryLines (l : Loaded) : List String :=
  [l.originLine, l.scene.document.page.summary, l.scene.document.countSummary] ++
    l.scene.document.shapes.map l.scene.shapeLine ++
    l.statusLine :: l.rowErrors.map errorLine

def summary (l : Loaded) : String :=
  "\n".intercalate l.summaryLines

theorem length_summaryLines (l : Loaded) :
    l.summaryLines.length =
      4 + l.scene.document.shapeCount + l.rowErrors.length := by
  simp [summaryLines, Document.length_shapes]
  omega

end Loaded

end Drafting
