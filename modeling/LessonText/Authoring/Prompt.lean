import LessonText.Authoring.Request
import LessonText.Markup.Draft

namespace LessonText.Prompt

def outline (r : Request) : Draft :=
  let topic := r.topic.text
  let course := r.course.text
  [.lines (.prose .title)
      (" [a specific, engaging title about " ++ topic ++ ", not just the topic name]".toList) [""],
    .lines (.prose .intro) ""
      ["Three or four sentences on what " ++ topic ++ " is and why it matters in ".toList ++
          course ++ ".".toList,
        ""],
    .lines (.prose .heading) " Understanding the Core Concepts" [],
    .lines (.prose .paragraph) ""
      ["A detailed explanation of the fundamentals. Wrap important terms in **double asterisks**.",
        ""],
    .lines .points ""
      ["- **Key Point 1**: first important concept",
        "- **Key Point 2**: second important concept",
        "- **Key Point 3**: third important concept",
        ""],
    .lines (.prose .heading) " Practical Implementation" [],
    .lines (.prose .paragraph) ""
      ["How " ++ topic ++ " is applied in practice, with **highlighted** terms.".toList, ""],
    .fenced "" (some Fence.defaultLanguage)
      ["// A short, runnable example demonstrating " ++ topic] [""],
    .lines (.prose .heading) " Best Practices" [],
    .lines .points ""
      ["- **Practice 1**: first tip", "- **Practice 2**: second tip", ""],
    .lines (.prose .heading) " Common Pitfalls to Avoid" [],
    .lines .points "" ["- **Mistake 1**: a common error and how to avoid it", ""],
    .lines (.prose .summary) ""
      ["Two or three sentences summarising the key takeaways about " ++ topic ++ ".".toList]]

def text (r : Request) (session : Text) : Text :=
  let topic := r.topic.text
  let course := r.course.text
  Text.unlines
    ["Write an original educational lesson about \"" ++ topic ++ "\" for the course \"".toList ++
        course ++ "\".".toList,
      "Vary your explanations and examples; do not reuse stock phrasing.",
      "",
      "Lay the lesson out with exactly these line markers:",
      "",
      (outline r).text,
      "",
      "Rules:",
      "1. Use **double asterisks** around important keywords.",
      "2. Code examples must be practical and relevant to " ++ topic ++ ".".toList,
      "3. Bullet points start with a dash.",
      "4. Use only these markers, each at the start of its own line: " ++
        List.intercalate ", ".toList (Kind.all.map Kind.marker),
      "",
      "Session: " ++ session,
      ""]

end LessonText.Prompt
