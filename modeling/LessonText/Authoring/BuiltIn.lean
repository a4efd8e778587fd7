import LessonText.Authoring.Request
import LessonText.Markup.Draft

namespace LessonText.BuiltIn

def draft (r : Request) : Draft :=
  let topic := r.topic.text
  let course := r.course.text
  [.lines (.prose .title) (" Understanding " ++ topic ++ ": A Complete Guide".toList) [""],
    .lines (.prose .intro) ""
      ["Welcome to this guide on " ++ topic ++ "! It is a crucial concept in ".toList ++ course ++
          " and a foundation for building robust applications. Understanding ".toList ++ topic ++
          " will help you write cleaner, more efficient code.".toList,
        ""],
    .lines (.prose .heading) " Core Fundamentals" [],
    .lines (.prose .paragraph) ""
      [topic ++ " is one of the **fundamental building blocks** of modern development. ".toList ++
          "It provides the structure and logic needed to create **scalable solutions**. ".toList ++
          "Once you master it, more complex challenges become approachable.".toList,
        ""],
    .lines .points ""
      ["- **Foundation**: " ++ topic ++ " is the base for more advanced concepts".toList,
        "- **Modularity**: Helps organise code into **reusable components**",
        "- **Efficiency**: Improves **performance** and maintainability",
        "- **Best Practices**: Follows industry **standard patterns**",
        ""],
    .lines (.prose .heading) " Practical Example" [],
    .lines (.prose .paragraph) ""
      ["Here is how " ++ topic ++ " works in practice. The example below shows the ".toList ++
          "**basic implementation** pattern.".toList,
        ""],
    .fenced "" (some Fence.defaultLanguage)
      ["// Basic example of " ++ topic,
        "const example = \x7b",
        "  name: \"" ++ topic ++ "\",".toList,
        "  course: \"" ++ course ++ "\",".toList,
        "  learn: function() \x7b",
        "    console.log(\"Learning \" + this.name);",
        "    return true;",
        "  \x7d",
        "\x7d;",
        "",
        "example.learn();"]
      [""],
    .lines (.prose .heading) " Key Takeaways" [],
    .lines .points ""
      ["- Always start with the **basics** before moving to advanced topics",
        "- Practice regularly to reinforce your **understanding**",
        "- Apply concepts in **real projects** for better retention",
        ""],
    .lines (.prose .summary) ""
      [topic ++ " is essential for success in ".toList ++ course ++
        ". Focus on the core principles, practise with real examples, and build your ".toList ++
        "expertise step by step.".toList]]

def lesson (r : Request) : Text :=
  (draft r).text

end LessonText.BuiltIn
