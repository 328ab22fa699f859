/-!
# Elements

A document as a tree of elements. The character data of an element is its text up to its first child;
what follows a child is the child's tail. Names in a namespace are written with the namespace in braces.

## Main definitions

* `Xml.Element` — the elements.
* `Xml.Element.attribute?` — an attribute by name.
* `Xml.Element.localName` — the name without its namespace.
* `Xml.Element.childrenNamed`, `Xml.Element.descendantsNamed` — elements by local name.
-/

namespace SolutionSurvey.Xml

/-- An element. Text that is not there differs from no text at all only in that it is never empty. -/
inductive Element where
  | mk (tag : String) (attributes : List (String × String)) (text tail : Option String)
    (children : List Element)
  deriving Repr, Inhabited

namespace Element

/-- The name of an element, with its namespace in braces. -/
def tag : Element → String
  | mk t _ _ _ _ => t

/-- The attributes of an element, in document order. -/
def attributes : Element → List (String × String)
  | mk _ a _ _ _ => a

/-- The text of an element up to its first child. -/
def text : Element → Option String
  | mk _ _ t _ _ => t

/-- The text between an element and what follows it. -/
def tail : Element → Option String
  | mk _ _ _ t _ => t

/-- The elements directly inside an element. -/
def children : Element → List Element
  | mk _ _ _ _ cs => cs

/-- The element with another tail. -/
def withTail (new : Option String) : Element → Element
  | mk t a x _ cs => mk t a x new cs

/-- The value of an attribute. -/
def attribute? (name : String) (e : Element) : Option String :=
  e.attributes.lookup name

/-- The name of an element without its namespace. -/
def localName (e : Element) : String :=
  match e.tag.toList with
  | '{' :: rest => String.ofList ((rest.dropWhile (· != '}')).drop 1)
  | _ => e.tag

/-- The children with a local name, whatever their namespace. -/
def childrenNamed (name : String) (e : Element) : List Element :=
  e.children.filter fun c => c.localName == name

mutual

/-- All elements below an element, in document order. -/
def descendants : Element → List Element
  | mk _ _ _ _ cs => descendantsOfList cs

/-- The given elements and all elements below them, in document order. -/
def descendantsOfList : List Element → List Element
  | [] => []
  | c :: rest => (c :: descendants c) ++ descendantsOfList rest

end

/-- All elements below an element with a local name, whatever their namespace. -/
def descendantsNamed (name : String) (e : Element) : List Element :=
  e.descendants.filter fun c => c.localName == name

end Element

end SolutionSurvey.Xml
