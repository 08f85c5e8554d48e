import JsxTemplate.Text.Letter

/-!
# Names in generated code

Template attributes are spelled as markup spells them, props as the components
do. Components themselves are named in capitals, after a tag or a file.
-/

namespace JsxTemplate.Jsx

open Text

/-- The prop name under which a spread is written. -/
def spreadMark : Text := "..."

/-- Attributes whose prop is not spelled by joining their words. -/
def attributeProps : List (String × String) :=
  [("class", "className"), ("for", "htmlFor"), ("accept-charset", "acceptCharset"),
    ("accesskey", "accessKey"), ("allowfullscreen", "allowFullScreen"),
    ("autocomplete", "autoComplete"), ("autofocus", "autoFocus"), ("autoplay", "autoPlay"),
    ("cellpadding", "cellPadding"), ("cellspacing", "cellSpacing"), ("charset", "charSet"),
    ("colspan", "colSpan"), ("contenteditable", "contentEditable"),
    ("crossorigin", "crossOrigin"), ("datetime", "dateTime"), ("enctype", "encType"),
    ("formaction", "formAction"), ("frameborder", "frameBorder"), ("http-equiv", "httpEquiv"),
    ("inputmode", "inputMode"), ("maxlength", "maxLength"), ("minlength", "minLength"),
    ("novalidate", "noValidate"), ("readonly", "readOnly"), ("rowspan", "rowSpan"),
    ("spellcheck", "spellCheck"), ("srcdoc", "srcDoc"), ("srcset", "srcSet"),
    ("tabindex", "tabIndex"), ("usemap", "useMap"), ("use-props", "...")]

/-- Event attributes and their props. -/
def eventProps : List (String × String) :=
  [("onblur", "onBlur"), ("onchange", "onChange"), ("onclick", "onClick"),
    ("oncontextmenu", "onContextMenu"), ("ondblclick", "onDoubleClick"), ("ondrag", "onDrag"),
    ("ondragend", "onDragEnd"), ("ondragenter", "onDragEnter"), ("ondragleave", "onDragLeave"),
    ("ondragover", "onDragOver"), ("ondragstart", "onDragStart"), ("ondrop", "onDrop"),
    ("onfocus", "onFocus"), ("oninput", "onInput"), ("onkeydown", "onKeyDown"),
    ("onkeypress", "onKeyPress"), ("onkeyup", "onKeyUp"), ("onload", "onLoad"),
    ("onmousedown", "onMouseDown"), ("onmouseenter", "onMouseEnter"),
    ("onmouseleave", "onMouseLeave"), ("onmousemove", "onMouseMove"),
    ("onmouseout", "onMouseOut"), ("onmouseover", "onMouseOver"), ("onmouseup", "onMouseUp"),
    ("onreset", "onReset"), ("onscroll", "onScroll"), ("onsubmit", "onSubmit"),
    ("ontouchend", "onTouchEnd"), ("ontouchmove", "onTouchMove"),
    ("ontouchstart", "onTouchStart"), ("onwheel", "onWheel")]

/-- Drops each dash before a small letter or a digit and makes that letter a
capital. -/
def joinWords : Text → Text
  | [] => []
  | '-' :: c :: s =>
    if c.isLower || c.isDigit then c.toUpper :: joinWords s else '-' :: joinWords (c :: s)
  | c :: s => c :: joinWords s

/-- The prop that a template attribute is written as. -/
def propName (name : Text) : Text :=
  match (attributeProps ++ eventProps).find? fun (known, _) => known.toList = name with
  | some (_, prop) => prop
  | none =>
    if "data-".toList.isPrefixOf name || "aria-".toList.isPrefixOf name then name
    else joinWords name

/-- The maximal runs of letters and digits. -/
def nameWords : Text → List Text
  | [] => []
  | c :: s =>
    if c.isAlphanum then
      match s, nameWords s with
      | d :: _, w :: ws => if d.isAlphanum then (c :: w) :: ws else [c] :: w :: ws
      | _, ws => [c] :: ws
    else nameWords s

/-- The words of a name, each with a capital, run together. -/
def pascalCase (name : Text) : Text := (nameWords name).flatMap capitalize

/-- Can a text of letters and digits name a component? -/
def isIdentifier : Text → Bool
  | [] => false
  | c :: _ => !c.isDigit

/-- The component that a template file of this stem defines. -/
def componentName (stem : Text) : Text :=
  if isIdentifier (pascalCase stem) then pascalCase stem else "Component"

end JsxTemplate.Jsx
